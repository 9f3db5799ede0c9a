import Osvauld.Data.Run
import Osvauld.Livnote.EditorSteps
import Osvauld.Livnote.NoteEvents

namespace Osvauld.Livnote

open Osvauld.Core Data

/-! The updates of syncs on their way to the editor. The backend has a current
note of its own, which follows the changes of the editor's. -/

structure SyncedEditor (yjs : Yrs) where
  editor : NoteEditor yjs := {}
  backendNote : Option String := none
  payloads : List DocumentUpdates := []
  /-- Not in the source: the resource of each payload that the editor applied, and
  the note that was open. -/
  applied : List (String × Option String) := []

inductive SyncedEvent where
  | editor (event : EditorEvent)
  /-- The task of a change of notes has set the backend's current note. -/
  | noteChanged (index : Nat)
  | updatesEvent (resourceId : String) (updates : JsonText)
  | documentUpdates (index : Nat)

def relayed (backendNote : Option String) (resourceId : String) (updates : JsonText) :
    List DocumentUpdates :=
  match backendNote with
  | some currentResourceId =>
      [{ resourceId := currentResourceId, updates, source := resourceId }]
  | none => []

variable {yjs : Yrs}

def SyncedEditor.step (event : SyncedEvent) (synced : SyncedEditor yjs) :
    SyncedEditor yjs :=
  match event with
  | .editor event => { synced with editor := synced.editor.step event }
  | .noteChanged index =>
      match synced.editor.noteChanges[index]? with
      | some noteId => { synced with backendNote := truthy noteId }
      | none => synced
  | .updatesEvent resourceId updates =>
      { synced with
        payloads := synced.payloads ++ relayed synced.backendNote resourceId updates }
  | .documentUpdates index =>
      match synced.payloads[index]? with
      | none => synced
      | some payload =>
          { synced with
            editor := synced.editor.handleDocumentUpdates payload
            payloads := synced.payloads.eraseIdx index
            applied :=
              if synced.editor.currentNoteId = some payload.resourceId then
                synced.applied ++ [(payload.source, synced.editor.currentNoteId)]
              else synced.applied }

def afterSyncing (events : List SyncedEvent) : SyncedEditor yjs :=
  run SyncedEditor.step {} events

/-- Merged updates are told while no note but theirs is open in the backend, and no
note is saved between its becoming the current one and its load. -/
structure InTheirNote (event : SyncedEvent) (synced : SyncedEditor yjs) : Prop where
  told : ∀ resourceId updates, event = .updatesEvent resourceId updates →
    synced.backendNote = none ∨ synced.backendNote = some resourceId
  saved : ∀ editorEvent, event = .editor editorEvent →
    editorEvent.SavesNote synced.editor → Settled synced.editor

structure Steady (editor : NoteEditor yjs) : Prop where
  loaded : LoadedFor (fun noteId _ received => ∀ source ∈ received, source = noteId) editor
  saves : ∀ save ∈ editor.saves, ∀ source ∈ save.received, source = save.noteId

namespace Steady

variable {editor : NoteEditor yjs}

theorem initial : Steady ({} : NoteEditor yjs) :=
  ⟨.initial, by simp⟩

theorem step (hsteady : Steady editor) (event : EditorEvent)
    (hsettled : event.SavesNote editor → Settled editor) : Steady (editor.step event) := by
  refine ⟨hsteady.loaded.step (by simp) event, fun save hsave source hsource => ?_⟩
  rcases editor.saves_step event with hsame | ⟨noteId, hcurrent, hsaves, hnew⟩
  · exact hsteady.saves save (hsame ▸ hsave) source hsource
  · rw [hnew] at hsave
    rcases List.mem_append.mp hsave with hold | hnew
    · exact hsteady.saves save hold source hsource
    · obtain rfl := List.mem_singleton.mp hnew
      exact hsteady.loaded.loaded (hsettled hsaves) noteId hcurrent source hsource

theorem handleDocumentUpdates (hsteady : Steady editor) {payload : DocumentUpdates}
    (hsource : payload.source = payload.resourceId) :
    Steady (editor.handleDocumentUpdates payload) := by
  unfold NoteEditor.handleDocumentUpdates
  split
  · next hcurrent =>
      have hsame := editor.sameNotes_applyDocumentUpdates payload.updates
      have happlied := hsteady.loaded.of_same hsame
      refine ⟨⟨happlied.current, happlied.switches, ?_⟩, ?_⟩
      · intro hsettled noteId hnote source hmem
        have hopen : editor.currentNoteId = some noteId := hsame.currentNoteId ▸ hnote
        rcases List.mem_append.mp hmem with hold | hnew
        · exact hsteady.loaded.loaded (hsame.settled_iff.mp hsettled) noteId hopen source hold
        · obtain rfl := List.mem_singleton.mp hnew
          rw [hsource]
          exact Option.some.inj (hcurrent.symm.trans hopen)
      · dsimp only
        rw [hsame.saves]
        exact hsteady.saves
  · exact hsteady

end Steady

structure KeepsApartNotes (synced : SyncedEditor yjs) : Prop where
  steady : Steady synced.editor
  payloads : ∀ payload ∈ synced.payloads, payload.source = payload.resourceId
  applied : ∀ entry ∈ synced.applied, entry.2 = some entry.1

theorem KeepsApartNotes.step {synced : SyncedEditor yjs} (hsynced : KeepsApartNotes synced)
    {event : SyncedEvent} (htheirs : InTheirNote event synced) :
    KeepsApartNotes (synced.step event) := by
  cases event with
  | editor event =>
      exact ⟨hsynced.steady.step event (htheirs.saved event rfl), hsynced.payloads,
        hsynced.applied⟩
  | noteChanged index =>
      simp only [SyncedEditor.step]
      split
      · exact ⟨hsynced.steady, hsynced.payloads, hsynced.applied⟩
      · exact hsynced
  | updatesEvent resourceId updates =>
      refine ⟨hsynced.steady, fun payload hpayload => ?_, hsynced.applied⟩
      rcases List.mem_append.mp hpayload with hold | hnew
      · exact hsynced.payloads payload hold
      · rcases htheirs.told resourceId updates rfl with hnone | hsome
        · simp [hnone, relayed] at hnew
        · obtain rfl : payload = _ := by simpa [hsome, relayed] using hnew
          rfl
  | documentUpdates index =>
      simp only [SyncedEditor.step]
      split
      · exact hsynced
      · next payload hpayload =>
          have hsource := hsynced.payloads payload (List.mem_of_getElem? hpayload)
          refine ⟨hsynced.steady.handleDocumentUpdates hsource,
            fun other hother => hsynced.payloads other (List.mem_of_mem_eraseIdx hother), ?_⟩
          split
          · next hcurrent =>
              intro entry hentry
              rcases List.mem_append.mp hentry with hold | hnew
              · exact hsynced.applied entry hold
              · obtain rfl := List.mem_singleton.mp hnew
                rw [hcurrent, hsource]
          · exact hsynced.applied

/-- When merged updates are told in their own note and a note is saved only with
its own documents, every update that the editor applies is for the note that is
open, and no save has updates of another one. -/
theorem synced_updates_reach_their_note {events : List SyncedEvent}
    (htheirs : ∀ earlier event, earlier ++ [event] <+: events →
      InTheirNote event (afterSyncing earlier : SyncedEditor yjs)) :
    (∀ entry ∈ (afterSyncing events : SyncedEditor yjs).applied, entry.2 = some entry.1) ∧
      ∀ save ∈ (afterSyncing events : SyncedEditor yjs).editor.saves,
        ∀ source ∈ save.received, source = save.noteId := by
  have hkeeps : ∀ earlier, earlier <+: events →
      KeepsApartNotes (afterSyncing earlier : SyncedEditor yjs) := by
    refine @run_invariant _ _ SyncedEditor.step {} events
      (fun _ synced => KeepsApartNotes synced) ?_
      fun earlier event hearlier hsynced => hsynced.step (htheirs earlier event hearlier)
    exact ⟨.initial, fun _ hpayload => absurd hpayload List.not_mem_nil,
      fun _ hentry => absurd hentry List.not_mem_nil⟩
  obtain ⟨hsteady, _, happlied⟩ := hkeeps events List.prefix_rfl
  exact ⟨happlied, hsteady.saves⟩

def mergedUpdates (image main : UInt8) : JsonText :=
  .encoded (.object
    [(DocSelection.image.stateKey, DecryptedResource.documentEntry [image] []),
      (DocSelection.main.stateKey, DecryptedResource.documentEntry [main] [])])

/-- A note is opened in the editor and in the backend, and updates of a resource
are merged, told, and applied before the note is saved. -/
def openedAndMerged (noteId resourceId : String) : List SyncedEvent :=
  [.editor (.switchNote (some noteId)), .noteChanged 0,
    .editor (.switchAnswered 0 (some fun _ => [1])), .editor .runEffect, .editor .runTimer,
    .editor .runTimer, .updatesEvent resourceId (mergedUpdates 2 4), .documentUpdates 0,
    .editor .saveNote]

theorem openedAndMerged_inTheirNote :
    EachEvent (fun earlier event =>
      InTheirNote event (afterSyncing earlier : SyncedEditor Yrs.bits)) []
      (openedAndMerged "a" "a") := by
  have hsaves : ∀ (synced : SyncedEditor Yrs.bits) event, event ≠ .saveNote →
      (∀ noteId, event ≠ .switchNote noteId) → InTheirNote (.editor event) synced := by
    refine fun synced event hsave hswitch => ⟨by simp, fun other hother hsaves => ?_⟩
    cases hother
    rcases hsaves.2.2 with heq | ⟨noteId, heq, _⟩
    · exact absurd heq hsave
    · exact absurd heq (hswitch noteId)
  refine ⟨⟨by simp, ?_⟩, ⟨by simp, by simp⟩, hsaves _ _ (by simp) (by simp),
    hsaves _ _ (by simp) (by simp), hsaves _ _ (by simp) (by simp),
    hsaves _ _ (by simp) (by simp), ⟨?_, by simp⟩, ⟨by simp, by simp⟩, ⟨by simp, ?_⟩, trivial⟩
  · exact fun _ _ _ => ⟨rfl, List.not_mem_nil⟩
  · rintro resourceId _ heq
    cases heq
    exact .inr (by decide +kernel)
  · refine fun _ _ _ => ⟨by decide +kernel, List.eq_nil_iff_forall_not_mem.mp ?_ _⟩
    exact List.eq_nil_of_length_eq_zero (by decide +kernel)

theorem synced_updates_reach_their_note_merged :
    (afterSyncing (openedAndMerged "a" "a") : SyncedEditor Yrs.bits).applied =
        [("a", some "a")] ∧
      ∀ entry ∈ (afterSyncing (openedAndMerged "a" "a") : SyncedEditor Yrs.bits).applied,
        entry.2 = some entry.1 :=
  ⟨by decide +kernel, (synced_updates_reach_their_note fun _ _ hearlier =>
    openedAndMerged_inTheirNote.of_prefix hearlier).1⟩

/-- The updates of another resource are applied to the open note, and saved with it. -/
theorem synced_update_saved_for_other_note :
    (afterSyncing (openedAndMerged "b" "x") : SyncedEditor Yrs.bits).applied =
        [("x", some "b")] ∧
      (afterSyncing (openedAndMerged "b" "x") : SyncedEditor Yrs.bits).editor.saves.map
        (fun save => (save.noteId, save.received, save.content .main)) =
        [("b", ["x"], [5])] := by
  decide +kernel

end Osvauld.Livnote
