import Osvauld.Data.Run
import Osvauld.Livnote.DocHandles
import Osvauld.Livnote.LiveEdit
import Osvauld.Livnote.PartialUpdates

namespace Osvauld.Livnote

open Osvauld.Core Data Network

/-! Which connections the open note has, while peers and the user go from note to
note. An event is handled to its end before the next one is. -/

variable {yrs : Yrs}

namespace Buffers

def default : Buffers yrs :=
  { noteId := none, mainDoc := yrs.new, imageDoc := yrs.new, commentDoc := yrs.new }

def clearActive (buffers : Buffers yrs) : Buffers yrs :=
  { buffers with activeConnections := [] }

def clearInactive (buffers : Buffers yrs) : Buffers yrs :=
  { buffers with inactiveConnections := [] }

@[simp] theorem inactiveConnections_setDoc (selection : DocSelection) (doc : yrs.Doc)
    (buffers : Buffers yrs) : (buffers.setDoc selection doc).inactiveConnections =
      buffers.inactiveConnections := by
  cases selection <;> rfl

@[simp] theorem inactiveConnections_addActive (connectionId : String)
    (buffers : Buffers yrs) : (buffers.addActive connectionId).inactiveConnections =
      buffers.inactiveConnections := by
  unfold addActive
  split <;> rfl

@[simp] theorem noteId_addInactive (connectionId : String) (buffers : Buffers yrs) :
    (buffers.addInactive connectionId).noteId = buffers.noteId := by
  unfold addInactive
  split <;> rfl

@[simp] theorem activeConnections_addInactive (connectionId : String)
    (buffers : Buffers yrs) : (buffers.addInactive connectionId).activeConnections =
      buffers.activeConnections := by
  unfold addInactive
  split <;> rfl

theorem mem_addInactive {connectionId other : String} {buffers : Buffers yrs} :
    other ∈ (buffers.addInactive connectionId).inactiveConnections ↔
      other ∈ buffers.inactiveConnections ∨ other = connectionId := by
  unfold addInactive
  split <;> simp_all

theorem nodup_addActive {connectionId : String} {buffers : Buffers yrs}
    (hnodup : buffers.activeConnections.Nodup) :
    (buffers.addActive connectionId).activeConnections.Nodup := by
  unfold addActive
  split
  · exact hnodup
  · next hnew =>
      exact List.nodup_append.mpr ⟨hnodup, List.nodup_singleton _, fun other hother last
        hlast => by rw [List.mem_singleton.mp hlast]; exact ne_of_mem_of_not_mem hother hnew⟩

end Buffers

namespace NoteTask

def setCurrentNote (noteId : Option String) (states : DocSelection → Option Bytes) :
    NoteTask yrs PUnit :=
  change fun buffers =>
    { buffers with
      noteId
      mainDoc := HandleTask.loadState (states .main)
      imageDoc := HandleTask.loadState (states .image)
      commentDoc := HandleTask.loadState (states .comment) }

def handleLeavingNote (previousNoteId : String) (newNoteId : Option String) :
    NoteTask yrs PUnit :=
  if newNoteId = some previousNoteId then return .unit
  else do
    change Buffers.clearActive
    change Buffers.clearInactive

/-- Without a user no note can be opened. `states` is what the store has for the
note, nothing if it cannot be loaded. -/
def openNote (signedIn : Bool) (newNoteId : Option String)
    (states : DocSelection → Option Bytes) : NoteTask yrs PUnit :=
  match newNoteId with
  | none => setCurrentNote none fun _ => none
  | some noteId =>
      if signedIn then setCurrentNote (some noteId) states else return .unit

def noteChange (signedIn : Bool) (newNoteId : Option String)
    (states : DocSelection → Option Bytes) : NoteTask yrs PUnit := do
  let previousNoteId ← Program.read fun buffers => .ok buffers.noteId
  match previousNoteId with
  | some previousNoteId => handleLeavingNote previousNoteId newNoteId
  | none => pure .unit
  openNote signedIn newNoteId states

end NoteTask

def speaker : P2PEvent → Option String
  | .documentCheck _ connectionId | .updateRequest _ connectionId _ _
  | .processUpdate _ connectionId _ _ | .processUpdateResponse _ connectionId _ _
  | .documentChanged _ connectionId | .documentMismatch connectionId => some connectionId
  | _ => none

def saidOpen : P2PEvent → Option String
  | .documentCheck resourceId _ | .updateRequest resourceId _ _ _
  | .processUpdate resourceId _ _ _ | .processUpdateResponse resourceId _ _ _ =>
      some resourceId
  | _ => none

inductive ConnectionEvent where
  | peer (event : P2PEvent)
  /-- The application is told that a connection is gone, and not which one. -/
  | disconnect (connectionId : String)
  | noteChange (signedIn : Bool) (noteId : Option String)
      (states : DocSelection → Option Bytes)

structure LiveConnections (yrs : Yrs) where
  buffers : Buffers yrs
  /-- Not in the source: the note that the last event of a connection said to be
  open at the peer, if it said one to be. -/
  said : String → Option String

namespace LiveConnections

def hear (event : P2PEvent) (said : String → Option String) : String → Option String :=
  match speaker event with
  | some connectionId => Function.update said connectionId (saidOpen event)
  | none => said

def step : ConnectionEvent → LiveConnections yrs → LiveConnections yrs
  | .peer event, state =>
      { buffers := ((handleEvent event).run state.buffers).2
        said := hear event state.said }
  | .disconnect connectionId, state =>
      { buffers := ((handleEvent .disconnected).run state.buffers).2
        said := Function.update state.said connectionId none }
  | .noteChange signedIn noteId states, state =>
      { state with
        buffers := ((NoteTask.noteChange signedIn noteId states).run state.buffers).2 }

def start : LiveConnections yrs :=
  { buffers := Buffers.default, said := fun _ => none }

/-- No connection is in both sets, and the peer of an active one has last said that it
has the note open that is open here. -/
structure Sound (state : LiveConnections yrs) : Prop where
  apart : ∀ connectionId ∈ state.buffers.activeConnections,
    connectionId ∉ state.buffers.inactiveConnections
  current : ∀ connectionId ∈ state.buffers.activeConnections,
    ∃ noteId, state.buffers.noteId = some noteId ∧ state.said connectionId = some noteId

end LiveConnections

def ExchangeRefused (peerUpdates : JsonText) (buffers : Buffers yrs) : Prop :=
  ∀ peerData, peerUpdates.parseObject = .ok peerData →
    Refuses peerData .main buffers ∨ Refuses peerData .image buffers

/-- An active connection speaks of the open note until it changes the document, and
an inactive one stays out of it until another note is opened. -/
def Expected (buffers : Buffers yrs) : ConnectionEvent → Prop
  | .peer (.documentCheck resourceId connectionId)
  | .peer (.updateRequest resourceId connectionId _ _) =>
      connectionId ∈ buffers.activeConnections → buffers.noteId = some resourceId
  | .peer (.processUpdate resourceId connectionId updates _) =>
      if buffers.noteId = some resourceId then
        connectionId ∈ buffers.inactiveConnections → ExchangeRefused updates buffers
      else connectionId ∉ buffers.activeConnections
  | .peer (.processUpdateResponse resourceId connectionId _ _) =>
      if buffers.noteId = some resourceId then
        connectionId ∉ buffers.inactiveConnections
      else connectionId ∉ buffers.activeConnections
  | .peer (.documentMismatch connectionId) | .disconnect connectionId =>
      connectionId ∉ buffers.activeConnections
  | _ => True

structure SameSets (before after : Buffers yrs) : Prop where
  noteId : after.noteId = before.noteId
  active : after.activeConnections = before.activeConnections
  inactive : after.inactiveConnections = before.inactiveConnections

namespace SameSets

theorem refl (buffers : Buffers yrs) : SameSets buffers buffers := ⟨rfl, rfl, rfl⟩

theorem trans {first second third : Buffers yrs} (hfirst : SameSets first second)
    (hsecond : SameSets second third) : SameSets first third :=
  ⟨hsecond.noteId.trans hfirst.noteId, hsecond.active.trans hfirst.active,
    hsecond.inactive.trans hfirst.inactive⟩

end SameSets

namespace NoteTask

open Program (Guarantees)

theorem getStateVector_sameSets (selection : DocSelection) :
    Guarantees SameSets (getStateVector selection : NoteTask yrs Bytes) :=
  .read SameSets.refl _

theorem applyTo_sameSets (selection : DocSelection) (update : Bytes) :
    Guarantees SameSets (applyTo selection update : NoteTask yrs PUnit) := by
  refine .write SameSets.refl fun buffers after hafter => ?_
  cases happlied : yrs.applyUpdateV2 (buffers.doc selection) update with
  | error error =>
      rw [happlied] at hafter
      cases hafter
  | ok doc =>
      rw [happlied] at hafter
      cases hafter
      exact ⟨Buffers.noteId_setDoc _ _ _, Buffers.activeConnections_setDoc _ _ _,
        Buffers.inactiveConnections_setDoc _ _ _⟩

theorem parsePeer_sameSets (what : String) (json : JsonText) :
    Guarantees SameSets (parsePeer what json : NoteTask yrs (List (String × Value))) := by
  refine .mapError _ ?_
  exact .done

theorem describeFor_sameSets (selection : DocSelection) (peerStateVector : Bytes) :
    Guarantees SameSets
      (describeFor selection peerStateVector : NoteTask yrs (List (String × Value))) := by
  refine .bind (.mapError _ (.atomically fun buffers => ⟨rfl, rfl, rfl⟩)) fun _ => ?_
  exact .bind (getStateVector_sameSets selection) fun _ => .pure _

theorem getDocStateVector_sameSets (selection : DocSelection) :
    Guarantees SameSets
      (getDocStateVector selection : NoteTask yrs (List (String × Value))) := by
  refine .bind (getStateVector_sameSets selection) fun stateVector => ?_
  split
  · exact .pure _
  · exact .pure _

theorem getStateVectors_sameSets :
    Guarantees SameSets (getStateVectors : NoteTask yrs JsonText) := by
  refine .bind (getDocStateVector_sameSets .main) fun _ => ?_
  refine .bind (getDocStateVector_sameSets .image) fun _ => ?_
  exact .bind (getDocStateVector_sameSets .comment) fun _ => .pure _

theorem processDocStateVectors_sameSets (peerData : List (String × Value))
    (selection : DocSelection) :
    Guarantees SameSets
      (processDocStateVectors peerData selection : NoteTask yrs (List (String × Value))) := by
  rw [processDocStateVectors]
  split
  · exact .pure _
  · dsimp only
    split
    · exact .pure _
    · exact describeFor_sameSets selection _

theorem generateUpdatesForPeer_sameSets (peerStateVectors : JsonText) :
    Guarantees SameSets (generateUpdatesForPeer peerStateVectors : NoteTask yrs JsonText) := by
  refine .bind (parsePeer_sameSets _ _) fun peerData => ?_
  refine .bind (processDocStateVectors_sameSets peerData .main) fun _ => ?_
  exact .bind (processDocStateVectors_sameSets peerData .image) fun _ => .pure _

theorem applyPeerDoc_sameSets (selection : DocSelection) (data : Value) :
    Guarantees SameSets (applyPeerDoc selection data : NoteTask yrs PUnit) := by
  rw [applyPeerDoc]
  split
  · exact .pure _
  · exact (applyTo_sameSets selection _).mapError _

theorem processDocUpdatesAndDiff_sameSets (peerData : List (String × Value))
    (selection : DocSelection) :
    Guarantees SameSets
      (processDocUpdatesAndDiff peerData selection :
        NoteTask yrs (List (String × Value))) := by
  rw [processDocUpdatesAndDiff]
  split
  · exact .pure _
  · refine .bind (applyPeerDoc_sameSets selection _) fun _ => ?_
    dsimp only
    split
    · exact .pure _
    · exact describeFor_sameSets selection _

theorem applyUpdatesAndGenerateDiff_sameSets (peerUpdates : JsonText) :
    Guarantees SameSets
      (applyUpdatesAndGenerateDiff peerUpdates : NoteTask yrs JsonText) := by
  refine .bind (parsePeer_sameSets _ _) fun peerData => ?_
  refine .bind (processDocUpdatesAndDiff_sameSets peerData .main) fun _ => ?_
  exact .bind (processDocUpdatesAndDiff_sameSets peerData .image) fun _ => .pure _

theorem applyPeerEntry_sameSets (peerData : List (String × Value))
    (selection : DocSelection) :
    Guarantees SameSets (applyPeerEntry peerData selection : NoteTask yrs PUnit) := by
  rw [applyPeerEntry]
  split
  · exact .pure _
  · exact applyPeerDoc_sameSets selection _

theorem applyPeerUpdates_sameSets (peerUpdates : JsonText) :
    Guarantees SameSets (applyPeerUpdates peerUpdates : NoteTask yrs PUnit) := by
  refine .bind (parsePeer_sameSets _ _) fun peerData => ?_
  exact .bind (applyPeerEntry_sameSets peerData .main) fun _ =>
    applyPeerEntry_sameSets peerData .image

theorem applyUpdate_sameSets (newUpdates : Bytes) (docType : String) :
    Guarantees SameSets (applyUpdate newUpdates docType : NoteTask yrs PUnit) := by
  rw [applyUpdate]
  split
  · exact .pure _
  · exact .bind (applyTo_sameSets _ newUpdates).attempt fun _ => .pure _

section Refusal

variable {peerData : List (String × Value)} {selection : DocSelection}
variable {buffers between : Buffers yrs}

theorem processDocUpdatesAndDiff_fails_iff :
    (∃ message, ((processDocUpdatesAndDiff peerData selection).run buffers).1 =
      .error message) ↔ Refuses peerData selection buffers := by
  cases happlied : applied peerData selection buffers with
  | error error =>
      obtain ⟨message, hrun⟩ := processDocUpdatesAndDiff_error happlied
      refine iff_of_true ⟨message, by rw [hrun]⟩ fun doc hdoc => ?_
      rw [happlied] at hdoc
      cases hdoc
  | ok doc => rw [refuses_iff happlied, (processDocUpdatesAndDiff_ok happlied).2]

theorem refuses_congr (hdoc : between.doc selection = buffers.doc selection) :
    Refuses peerData selection between ↔ Refuses peerData selection buffers := by
  rw [Refuses, Refuses, applied, applied, hdoc]

theorem processDocUpdatesAndDiff_doc {other : DocSelection} (hother : other ≠ selection) :
    ((processDocUpdatesAndDiff peerData selection).run buffers).2.doc other =
      buffers.doc other := by
  cases happlied : applied peerData selection buffers with
  | error error =>
      obtain ⟨message, hrun⟩ := processDocUpdatesAndDiff_error happlied
      rw [hrun]
  | ok doc =>
      rw [(processDocUpdatesAndDiff_ok happlied).1 other, Buffers.doc_setDoc, if_neg hother]

theorem applyUpdatesAndGenerateDiff_fails_iff {peerUpdates : JsonText} :
    (∃ message, ((applyUpdatesAndGenerateDiff peerUpdates).run buffers).1 =
      .error message) ↔ ExchangeRefused peerUpdates buffers := by
  rw [applyUpdatesAndGenerateDiff, Program.run_bind, parsePeer_run, ExchangeRefused]
  cases peerUpdates.parseObject with
  | error error =>
      refine iff_of_true ⟨_, rfl⟩ fun peerData hnone => ?_
      cases hnone
  | ok peerData =>
      have hmain := @processDocUpdatesAndDiff_fails_iff _ peerData .main buffers
      have hdoc := @processDocUpdatesAndDiff_doc _ peerData .main buffers .image (by decide)
      rw [Except.mapError, Program.andThen_ok, Program.run_bind]
      generalize (processDocUpdatesAndDiff peerData .main).run buffers = outcome at *
      obtain ⟨error | mainAnswer, between⟩ := outcome
      · have hrefused := hmain.mp ⟨error, rfl⟩
        refine iff_of_true ⟨error, rfl⟩ fun found hfound => ?_
        cases hfound
        exact .inl hrefused
      · have hanswered : ¬ Refuses peerData .main buffers := by
          rw [← hmain]
          rintro ⟨message, hmessage⟩
          cases hmessage
        have himage := @processDocUpdatesAndDiff_fails_iff _ peerData .image between
        rw [refuses_congr hdoc] at himage
        rw [Program.andThen_ok, Program.run_bind]
        generalize (processDocUpdatesAndDiff peerData .image).run between = outcome at *
        obtain ⟨error | imageAnswer, after⟩ := outcome
        · have hrefused := himage.mp ⟨error, rfl⟩
          refine iff_of_true ⟨error, rfl⟩ fun found hfound => ?_
          cases hfound
          exact .inr hrefused
        · refine iff_of_false ?_ fun hrefused => ?_
          · rintro ⟨message, hmessage⟩
            cases hmessage
          · rcases hrefused peerData rfl with hrefused | hrefused
            · exact hanswered hrefused
            · obtain ⟨message, hmessage⟩ := himage.mpr hrefused
              cases hmessage

end Refusal

end NoteTask

section Handlers

variable {resourceId connectionId : String} {buffers : Buffers yrs}

theorem forCurrentNote_run (task : Answers yrs) (buffers : Buffers yrs) :
    (forCurrentNote resourceId task).run buffers =
      if buffers.noteId = some resourceId then task.run buffers else (.ok [], buffers) := by
  rw [forCurrentNote, isCurrentNote, Program.run_bind, Program.run_read, Program.andThen_ok]
  by_cases hopen : buffers.noteId = some resourceId
  · rw [if_pos hopen, if_pos (by rw [hopen, beq_self_eq_true])]
  · rw [if_neg hopen, if_neg (by rwa [beq_iff_eq])]
    rfl

theorem orNothing_leaves (task : Answers yrs) (buffers : Buffers yrs) :
    ((orNothing task).run buffers).2 = (task.run buffers).2 := by
  rw [orNothing, Program.run_bind, Program.run_attempt, Program.andThen_ok]
  cases (task.run buffers).1 with
  | ok messages => rfl
  | error error => rfl

theorem Guarantees.leaves {α : Type} {task : NoteTask yrs α}
    (htask : Program.Guarantees SameSets task) (buffers : Buffers yrs) :
    SameSets buffers (task.run buffers).2 :=
  htask.run SameSets.refl (fun _ _ _ => SameSets.trans) buffers

theorem forCurrentNote_sameSets {task : Answers yrs}
    (htask : Program.Guarantees SameSets task) :
    Program.Guarantees SameSets (forCurrentNote resourceId task) := by
  refine .bind (.read SameSets.refl _) fun isCurrent => ?_
  cases isCurrent with
  | true => exact htask
  | false => exact .pure _

theorem orNothing_sameSets {task : Answers yrs}
    (htask : Program.Guarantees SameSets task) :
    Program.Guarantees SameSets (orNothing task) := by
  refine .bind htask.attempt fun outcome => ?_
  cases outcome with
  | ok messages => exact .pure _
  | error error => exact .pure _

theorem handleDocumentCheck_sameSets :
    Program.Guarantees SameSets (handleDocumentCheck resourceId : Answers yrs) := by
  refine .bind (.read SameSets.refl _) fun isMatch => ?_
  cases isMatch with
  | true => exact orNothing_sameSets (.bind NoteTask.getStateVectors_sameSets fun _ => .pure _)
  | false => exact .pure _

theorem handleDocumentUpdateRequest_sameSets (stateVectors : JsonText) :
    Program.Guarantees SameSets
      (handleDocumentUpdateRequest resourceId stateVectors : Answers yrs) :=
  forCurrentNote_sameSets (orNothing_sameSets
    (.bind (NoteTask.generateUpdatesForPeer_sameSets stateVectors) fun _ => .pure _))

theorem handleDocumentProcessUpdate_refused {updates : JsonText}
    (hrefused : buffers.noteId = some resourceId → ExchangeRefused updates buffers) :
    SameSets buffers
      ((handleDocumentProcessUpdate resourceId connectionId updates).run buffers).2 := by
  rw [handleDocumentProcessUpdate, forCurrentNote_run]
  split
  · next hopen =>
      obtain ⟨message, hmessage⟩ :=
        NoteTask.applyUpdatesAndGenerateDiff_fails_iff.mpr (hrefused hopen)
      have hsame := Guarantees.leaves
        (NoteTask.applyUpdatesAndGenerateDiff_sameSets updates) buffers
      rw [orNothing_leaves, Program.run_bind]
      generalize (NoteTask.applyUpdatesAndGenerateDiff updates).run buffers = outcome at *
      obtain ⟨result, after⟩ := outcome
      cases hmessage
      exact hsame
  · exact SameSets.refl buffers

theorem addActive_sameSets {after : Buffers yrs} (hsame : SameSets buffers after) :
    SameSets (buffers.addActive connectionId) (after.addActive connectionId) := by
  refine ⟨?_, ?_, ?_⟩
  · rw [Buffers.noteId_addActive, Buffers.noteId_addActive, hsame.noteId]
  · rw [Buffers.addActive, Buffers.addActive, hsame.active]
    split
    · exact hsame.active
    · rfl
  · rw [Buffers.inactiveConnections_addActive, Buffers.inactiveConnections_addActive,
      hsame.inactive]

theorem handleDocumentProcessUpdate_answered {updates : JsonText}
    (hopen : buffers.noteId = some resourceId)
    (hanswered : ¬ ExchangeRefused updates buffers) :
    SameSets (buffers.addActive connectionId)
      ((handleDocumentProcessUpdate resourceId connectionId updates).run buffers).2 := by
  have hsame := Guarantees.leaves
    (NoteTask.applyUpdatesAndGenerateDiff_sameSets updates) buffers
  rw [← NoteTask.applyUpdatesAndGenerateDiff_fails_iff] at hanswered
  rw [handleDocumentProcessUpdate, forCurrentNote_run, if_pos hopen, orNothing_leaves,
    Program.run_bind]
  generalize (NoteTask.applyUpdatesAndGenerateDiff updates).run buffers = outcome at *
  obtain ⟨error | peerUpdates, after⟩ := outcome
  · exact absurd ⟨error, rfl⟩ hanswered
  · exact addActive_sameSets hsame

theorem handleDocumentProcessUpdateResponse_leaves (updates : JsonText) :
    SameSets (if buffers.noteId = some resourceId then buffers.addActive connectionId
        else buffers)
      ((handleDocumentProcessUpdateResponse resourceId connectionId updates).run
        buffers).2 := by
  rw [handleDocumentProcessUpdateResponse, forCurrentNote_run]
  split
  · have hsame := Guarantees.leaves (NoteTask.applyPeerUpdates_sameSets updates) buffers
    rw [Program.run_bind, Program.run_attempt, Program.andThen_ok]
    exact addActive_sameSets hsame
  · exact SameSets.refl buffers

theorem handleLiveEditConnected_sameSets :
    Program.Guarantees SameSets (handleLiveEditConnected : Answers yrs) := by
  refine .bind (.read SameSets.refl _) fun noteId => ?_
  cases noteId with
  | none => exact .pure _
  | some resourceId => exact .pure _

theorem mem_removeActive {other : String} (hnodup : buffers.activeConnections.Nodup) :
    other ∈ (buffers.removeActive connectionId).activeConnections ↔
      other ∈ buffers.activeConnections ∧ other ≠ connectionId := by
  rw [Buffers.removeActive, hnodup.mem_erase_iff, and_comm]

theorem handleEditingEvent_sameSets (updates : Bytes) (docType : String) :
    Program.Guarantees SameSets
      (handleEditingEvent resourceId updates docType : Answers yrs) :=
  forCurrentNote_sameSets
    (.bind (NoteTask.applyUpdate_sameSets updates docType) fun _ => .pure _)

variable (signedIn : Bool) (newNoteId : Option String) (states : DocSelection → Option Bytes)

theorem openNote_leaves (buffers : Buffers yrs) :
    ((NoteTask.openNote signedIn newNoteId states).run buffers).2.activeConnections =
        buffers.activeConnections ∧
      (newNoteId = buffers.noteId → SameSets buffers
        ((NoteTask.openNote signedIn newNoteId states).run buffers).2) := by
  cases newNoteId with
  | none => exact ⟨rfl, fun hopen => ⟨hopen, rfl, rfl⟩⟩
  | some noteId =>
      cases signedIn with
      | true => exact ⟨rfl, fun hopen => ⟨hopen, rfl, rfl⟩⟩
      | false => exact ⟨rfl, fun _ => SameSets.refl buffers⟩

theorem noteChange_run (buffers : Buffers yrs) :
    (NoteTask.noteChange signedIn newNoteId states).run buffers =
      (NoteTask.openNote signedIn newNoteId states).run
        (if buffers.noteId = none ∨ newNoteId = buffers.noteId then buffers
        else buffers.clearActive.clearInactive) := by
  rw [NoteTask.noteChange, Program.run_bind, Program.run_read, Program.andThen_ok]
  cases hopen : buffers.noteId with
  | none =>
      rw [if_pos (.inl rfl)]
  | some previousNoteId =>
      dsimp only
      rw [Program.run_bind, NoteTask.handleLeavingNote]
      by_cases hsame : newNoteId = some previousNoteId
      · rw [if_pos hsame, if_pos (.inr hsame)]
        rfl
      · rw [if_neg hsame, if_neg (by simpa using hsame)]
        rfl

theorem noteChange_leaves (hnone : buffers.noteId = none → buffers.activeConnections = []) :
    ((NoteTask.noteChange signedIn newNoteId states).run buffers).2.activeConnections = [] ∨
      SameSets buffers ((NoteTask.noteChange signedIn newNoteId states).run buffers).2 := by
  rw [noteChange_run]
  have hopens := openNote_leaves signedIn newNoteId states buffers
  split
  · next hkept =>
      rcases hkept with hclosed | hsame
      · exact .inl (hopens.1.trans (hnone hclosed))
      · exact .inr (hopens.2 hsame)
  · exact .inl (openNote_leaves signedIn newNoteId states _).1

end Handlers

namespace LiveConnections

section Sound

variable {state : LiveConnections yrs} {after : Buffers yrs} {connectionId : String}

theorem sound_told_iff (hsound : Sound state) (hafter : SameSets state.buffers after)
    (word : Option String) :
    Sound ⟨after, Function.update state.said connectionId word⟩ ↔
      (connectionId ∈ state.buffers.activeConnections →
        ∃ noteId, state.buffers.noteId = some noteId ∧ word = some noteId) := by
  constructor
  · intro hnext hactive
    obtain ⟨noteId, hopen, hsaid⟩ := hnext.current connectionId (hafter.active ▸ hactive)
    dsimp only at hsaid
    rw [Function.update_self] at hsaid
    exact ⟨noteId, hafter.noteId ▸ hopen, hsaid⟩
  · intro hword
    refine ⟨?_, ?_⟩
    · rw [hafter.active, hafter.inactive]
      exact hsound.apart
    · intro other hother
      dsimp only at hother ⊢
      rw [hafter.active] at hother
      rw [hafter.noteId]
      by_cases hsame : other = connectionId
      · subst hsame
        rw [Function.update_self]
        exact hword hother
      · rw [Function.update_of_ne hsame]
        exact hsound.current other hother

variable {resourceId : String}

section

variable (hsound : Sound state)

include hsound

theorem sound_joined_iff (hopen : state.buffers.noteId = some resourceId)
    (hafter : SameSets (state.buffers.addActive connectionId) after) :
    Sound ⟨after, Function.update state.said connectionId (some resourceId)⟩ ↔
      connectionId ∉ state.buffers.inactiveConnections := by
  have hactive (other : String) : other ∈ after.activeConnections ↔
      other ∈ state.buffers.activeConnections ∨ other = connectionId := by
    rw [hafter.active, Buffers.mem_addActive]
  have hinactive : after.inactiveConnections = state.buffers.inactiveConnections := by
    rw [hafter.inactive, Buffers.inactiveConnections_addActive]
  have hnoteId : after.noteId = some resourceId := by
    rw [hafter.noteId, Buffers.noteId_addActive, hopen]
  constructor
  · intro hnext
    rw [← hinactive]
    exact hnext.apart connectionId ((hactive connectionId).mpr (.inr rfl))
  · intro hout
    refine ⟨?_, ?_⟩
    · intro other hother
      dsimp only at hother ⊢
      rw [hinactive]
      rcases (hactive other).mp hother with hbefore | rfl
      · exact hsound.apart other hbefore
      · exact hout
    · intro other hother
      refine ⟨resourceId, hnoteId, ?_⟩
      by_cases hsame : other = connectionId
      · subst hsame
        exact Function.update_self other _ _
      · obtain ⟨noteId, hnote, hsaid⟩ :=
          hsound.current other (((hactive other).mp hother).resolve_right hsame)
        obtain rfl : noteId = resourceId := Option.some.inj (hnote.symm.trans hopen)
        exact (Function.update_of_ne hsame _ _).trans hsaid

theorem sound_parted (hnoteId : after.noteId = state.buffers.noteId)
    (hactive : ∀ other ∈ after.activeConnections,
      other ∈ state.buffers.activeConnections ∧ other ≠ connectionId)
    (hinactive : ∀ other ∈ after.inactiveConnections,
      other ∈ state.buffers.inactiveConnections ∨ other = connectionId) :
    Sound ⟨after, Function.update state.said connectionId none⟩ := by
  refine ⟨?_, ?_⟩
  · intro other hother hin
    obtain ⟨hbefore, hne⟩ := hactive other hother
    exact hsound.apart other hbefore ((hinactive other hin).resolve_right hne)
  · intro other hother
    obtain ⟨hbefore, hne⟩ := hactive other hother
    obtain ⟨noteId, hopen, hsaid⟩ := hsound.current other hbefore
    exact ⟨noteId, hnoteId.trans hopen, (Function.update_of_ne hne _ _).trans hsaid⟩

theorem sound_silent_iff (hafter : SameSets state.buffers after) :
    Sound ⟨after, Function.update state.said connectionId none⟩ ↔
      connectionId ∉ state.buffers.activeConnections := by
  rw [sound_told_iff hsound hafter]
  simp

theorem sound_named_iff (hafter : SameSets state.buffers after) :
    Sound ⟨after, Function.update state.said connectionId (some resourceId)⟩ ↔
      (connectionId ∈ state.buffers.activeConnections →
        state.buffers.noteId = some resourceId) := by
  rw [sound_told_iff hsound hafter]
  simp

theorem sound_kept (hafter : SameSets state.buffers after) : Sound ⟨after, state.said⟩ := by
  refine ⟨?_, ?_⟩
  · rw [hafter.active, hafter.inactive]
    exact hsound.apart
  · rw [hafter.active, hafter.noteId]
    exact hsound.current

theorem sound_processUpdate_iff {updates : JsonText} :
    Sound ⟨((handleDocumentProcessUpdate resourceId connectionId updates).run
        state.buffers).2, Function.update state.said connectionId (some resourceId)⟩ ↔
      if state.buffers.noteId = some resourceId then
        connectionId ∈ state.buffers.inactiveConnections →
          ExchangeRefused updates state.buffers
      else connectionId ∉ state.buffers.activeConnections := by
  split
  · next hopen =>
      by_cases hrefused : ExchangeRefused updates state.buffers
      · rw [sound_named_iff hsound (handleDocumentProcessUpdate_refused fun _ => hrefused)]
        exact iff_of_true (fun _ => hopen) fun _ => hrefused
      · rw [sound_joined_iff hsound hopen
          (handleDocumentProcessUpdate_answered hopen hrefused)]
        exact ⟨fun hout hin => absurd hin hout, fun hanswer hin => hrefused (hanswer hin)⟩
  · next hother =>
      rw [sound_named_iff hsound
        (handleDocumentProcessUpdate_refused fun hopen => absurd hopen hother)]
      exact ⟨fun hnamed hactive => hother (hnamed hactive), fun hout hactive =>
        absurd hactive hout⟩

end

theorem sound_processUpdateResponse_iff {resourceId : String} {updates : JsonText}
    (hsound : Sound state) :
    Sound ⟨((handleDocumentProcessUpdateResponse resourceId connectionId updates).run
        state.buffers).2, Function.update state.said connectionId (some resourceId)⟩ ↔
      if state.buffers.noteId = some resourceId then
        connectionId ∉ state.buffers.inactiveConnections
      else connectionId ∉ state.buffers.activeConnections := by
  have hleaves := @handleDocumentProcessUpdateResponse_leaves _ resourceId connectionId
    state.buffers updates
  by_cases hopen : state.buffers.noteId = some resourceId
  · rw [if_pos hopen] at hleaves ⊢
    exact sound_joined_iff hsound hopen hleaves
  · rw [if_neg hopen] at hleaves ⊢
    rw [sound_named_iff hsound hleaves]
    exact ⟨fun hnamed hactive => hopen (hnamed hactive), fun hout hactive =>
      absurd hactive hout⟩

theorem sound_documentMismatch_iff (hsound : Sound state) :
    Sound ⟨state.buffers.addInactive connectionId,
        Function.update state.said connectionId none⟩ ↔
      connectionId ∉ state.buffers.activeConnections := by
  constructor
  · intro hnext hactive
    refine hnext.apart connectionId ?_ (Buffers.mem_addInactive.mpr (.inr rfl))
    rwa [Buffers.activeConnections_addInactive]
  · intro hout
    refine sound_parted hsound (Buffers.noteId_addInactive _ _) ?_
      fun other hother => Buffers.mem_addInactive.mp hother
    intro other hother
    rw [Buffers.activeConnections_addInactive] at hother
    exact ⟨hother, ne_of_mem_of_not_mem hother hout⟩

theorem sound_documentChanged (hsound : Sound state)
    (hnodup : state.buffers.activeConnections.Nodup) :
    Sound ⟨(state.buffers.removeActive connectionId).addInactive connectionId,
      Function.update state.said connectionId none⟩ := by
  refine sound_parted hsound (Buffers.noteId_addInactive _ _) ?_
    fun other => (@Buffers.mem_addInactive _ _ other _).mp
  intro other hother
  rw [Buffers.activeConnections_addInactive] at hother
  exact (mem_removeActive hnodup).mp hother

theorem sound_noteChange (hsound : Sound state) (signedIn : Bool) (noteId : Option String)
    (states : DocSelection → Option Bytes) :
    Sound (step (.noteChange signedIn noteId states) state) := by
  have hnone : state.buffers.noteId = none → state.buffers.activeConnections = [] := by
    intro hclosed
    refine List.eq_nil_iff_forall_not_mem.mpr fun connectionId hactive => ?_
    obtain ⟨noteId, hopen, -⟩ := hsound.current connectionId hactive
    rw [hclosed] at hopen
    cases hopen
  rcases noteChange_leaves signedIn noteId states hnone with hempty | hsame
  · refine ⟨fun connectionId hactive => ?_, fun connectionId hactive => ?_⟩
    · rw [step, hempty] at hactive
      cases hactive
    · rw [step, hempty] at hactive
      cases hactive
  · exact sound_kept hsound hsame

end Sound

theorem step_sound_iff {state : LiveConnections yrs} (hsound : Sound state)
    (hnodup : state.buffers.activeConnections.Nodup) (event : ConnectionEvent) :
    Sound (step event state) ↔ Expected state.buffers event := by
  cases event with
  | disconnect connectionId => exact sound_silent_iff hsound (SameSets.refl _)
  | noteChange signedIn noteId states =>
      exact iff_of_true (sound_noteChange hsound signedIn noteId states) trivial
  | peer event =>
      cases event with
      | documentCheck resourceId connectionId =>
          exact sound_named_iff hsound (Guarantees.leaves handleDocumentCheck_sameSets _)
      | updateRequest resourceId connectionId stateVectors currentUserId =>
          exact sound_named_iff hsound
            (Guarantees.leaves (handleDocumentUpdateRequest_sameSets stateVectors) _)
      | processUpdate resourceId connectionId updates clientId =>
          exact sound_processUpdate_iff hsound
      | processUpdateResponse resourceId connectionId updates clientId =>
          exact sound_processUpdateResponse_iff hsound
      | documentChanged resourceId connectionId =>
          exact iff_of_true (sound_documentChanged hsound hnodup) trivial
      | documentMismatch connectionId => exact sound_documentMismatch_iff hsound
      | editingEvent resourceId clientId updates docType =>
          exact iff_of_true (sound_kept hsound
            (Guarantees.leaves (handleEditingEvent_sameSets updates docType) _)) trivial
      | liveEditConnected connectionId =>
          exact iff_of_true (sound_kept hsound
            (Guarantees.leaves handleLiveEditConnected_sameSets _)) trivial
      | disconnected | awarenessEvent | error | updatesEvent | resourceAdded
      | foldersAdded => exact iff_of_true hsound trivial

theorem step_nodup {state : LiveConnections yrs}
    (hnodup : state.buffers.activeConnections.Nodup) (event : ConnectionEvent) :
    (step event state).buffers.activeConnections.Nodup := by
  have hkept {after : Buffers yrs} (hafter : SameSets state.buffers after) :
      after.activeConnections.Nodup := hafter.active ▸ hnodup
  have hjoined {connectionId : String} {after : Buffers yrs}
      (hafter : SameSets (state.buffers.addActive connectionId) after) :
      after.activeConnections.Nodup := hafter.active ▸ Buffers.nodup_addActive hnodup
  cases event with
  | disconnect connectionId => exact hnodup
  | noteChange signedIn noteId states =>
      rw [step, noteChange_run, (openNote_leaves signedIn noteId states _).1]
      split
      · exact hnodup
      · exact List.nodup_nil
  | peer event =>
      cases event with
      | documentCheck resourceId connectionId =>
          exact hkept (Guarantees.leaves handleDocumentCheck_sameSets _)
      | updateRequest resourceId connectionId stateVectors currentUserId =>
          exact hkept (Guarantees.leaves (handleDocumentUpdateRequest_sameSets stateVectors) _)
      | processUpdate resourceId connectionId updates clientId =>
          by_cases hrefused : state.buffers.noteId = some resourceId →
              ExchangeRefused updates state.buffers
          · exact hkept (handleDocumentProcessUpdate_refused hrefused)
          · obtain ⟨hopen, hanswered⟩ := Classical.not_imp.mp hrefused
            exact hjoined (handleDocumentProcessUpdate_answered hopen hanswered)
      | processUpdateResponse resourceId connectionId updates clientId =>
          have hleaves := @handleDocumentProcessUpdateResponse_leaves _ resourceId
            connectionId state.buffers updates
          split at hleaves
          · exact hjoined hleaves
          · exact hkept hleaves
      | documentChanged resourceId connectionId =>
          refine Eq.subst (motive := List.Nodup)
            (Buffers.activeConnections_addInactive connectionId _).symm ?_
          exact hnodup.erase connectionId
      | documentMismatch connectionId =>
          exact Eq.subst (motive := List.Nodup)
            (Buffers.activeConnections_addInactive connectionId _).symm hnodup
      | editingEvent resourceId clientId updates docType =>
          exact hkept (Guarantees.leaves (handleEditingEvent_sameSets updates docType) _)
      | liveEditConnected connectionId =>
          exact hkept (Guarantees.leaves handleLiveEditConnected_sameSets _)
      | disconnected | awarenessEvent | error | updatesEvent | resourceAdded
      | foldersAdded => exact hnodup

theorem start_sound : Sound (start : LiveConnections yrs) := by
  constructor
  · intro connectionId hactive
    cases hactive
  · intro connectionId hactive
    cases hactive

/-- The sets are sound all along a run exactly when each of its events was expected. -/
theorem run_sound_iff (events : List ConnectionEvent) :
    (∀ earlier, earlier <+: events → Sound (run step (start : LiveConnections yrs) earlier)) ↔
      ∀ earlier event, earlier ++ [event] <+: events →
        Expected (run step (start : LiveConnections yrs) earlier).buffers event := by
  have hnodup := @run_invariant _ _ step (start : LiveConnections yrs) events
    (fun _ state => state.buffers.activeConnections.Nodup) List.nodup_nil
    fun _ event _ hbefore => step_nodup hbefore event
  have hgood := @run_good_iff _ _ step (start : LiveConnections yrs) events
    (fun state => state.buffers.activeConnections.Nodup ∧ Sound state)
    (fun _ _ => True) (fun event state => Expected state.buffers event)
    (fun event state hstate => by
      rw [and_true, step_sound_iff hstate.2 hstate.1 event]
      exact and_iff_right (step_nodup hstate.1 event))
    ⟨List.nodup_nil, start_sound⟩
  rw [← hgood]
  constructor
  · intro hsound
    exact ⟨fun earlier hearlier => ⟨hnodup earlier hearlier, hsound earlier hearlier⟩,
      fun _ _ _ => trivial⟩
  · rintro ⟨hstates, -⟩ earlier hearlier
    exact (hstates earlier hearlier).2

def openEvent : ConnectionEvent := .noteChange true (some "n") fun _ => none

def exchangeEvent : ConnectionEvent :=
  .peer (.processUpdate "n" "c" (.encoded (.object [])) 0)

/-- An exchange leaves the connection among the inactive ones, and a connection that
is gone stays active. -/
theorem run_sound_fails :
    (¬ ∀ events : List ConnectionEvent,
      ∀ connectionId ∈
          (run step (start : LiveConnections Yrs.bits) events).buffers.activeConnections,
        connectionId ∉
          (run step (start : LiveConnections Yrs.bits) events).buffers.inactiveConnections) ∧
      ¬ ∀ events : List ConnectionEvent,
        ∀ connectionId ∈
            (run step (start : LiveConnections Yrs.bits) events).buffers.activeConnections,
          (run step (start : LiveConnections Yrs.bits) events).said connectionId =
            (run step (start : LiveConnections Yrs.bits) events).buffers.noteId := by
  constructor
  · intro hapart
    have hout := hapart [openEvent, .peer (.documentMismatch "c"),
      .peer (.documentCheck "n" "c"), exchangeEvent] "c" (List.mem_singleton.mpr rfl)
    exact hout (List.mem_singleton.mpr rfl)
  · intro hcurrent
    have hsaid := hcurrent [openEvent, .peer (.documentCheck "n" "c"), exchangeEvent,
      .disconnect "c"] "c" (List.mem_singleton.mpr rfl)
    cases hsaid

end LiveConnections

end Osvauld.Livnote
