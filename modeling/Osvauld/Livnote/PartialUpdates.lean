import Osvauld.Livnote.CurrentNoteState

namespace Osvauld.Livnote

open Osvauld.Core Data

/-! Bundles of a peer's updates that fail, and what is left of them in the documents. -/

variable {yrs : Yrs}

def SameDocs (before after : Buffers yrs) : Prop :=
  ∀ selection, after.doc selection = before.doc selection

section Parts

variable (peerData : List (String × Value)) (selection : DocSelection) (buffers : Buffers yrs)

def partBytes (field : String) : Bytes :=
  match Value.get (.object peerData) selection.stateKey with
  | some data => DecryptedResource.entryBytes data field
  | none => []

def applied : Except String yrs.Doc :=
  yrs.applyUpdateV2 (buffers.doc selection) (partBytes peerData selection "updates")

def Keeps : Prop :=
  ∀ doc, applied peerData selection buffers = .ok doc → doc = buffers.doc selection

def Refuses : Prop :=
  ∀ doc, applied peerData selection buffers = .ok doc →
    ∃ error, yrs.getDiffUpdateV2 doc (partBytes peerData selection "state_vector") =
      .error error

end Parts

def ExchangeKept (peerUpdates : JsonText) (buffers : Buffers yrs) : Prop :=
  ∀ peerData, peerUpdates.parseObject = .ok peerData →
    Keeps peerData .main buffers ∧ (Refuses peerData .main buffers ∨
      Keeps peerData .image buffers)

def UpdatesKept (peerUpdates : JsonText) (buffers : Buffers yrs) : Prop :=
  ∀ peerData, peerUpdates.parseObject = .ok peerData → Keeps peerData .main buffers

namespace NoteTask

variable {peerData : List (String × Value)} {selection : DocSelection}
variable {buffers : Buffers yrs} {data : Value}

variable {doc : yrs.Doc} {error : String} {after : Buffers yrs}

theorem applyPeerDoc_ok
    (happlied : yrs.applyUpdateV2 (buffers.doc selection)
      (DecryptedResource.entryBytes data "updates") = .ok doc) :
    (applyPeerDoc selection data).run buffers = (.ok .unit, buffers.setDoc selection doc) := by
  rw [applyPeerDoc]
  by_cases hempty : (DecryptedResource.entryBytes data "updates").isEmpty = true
  · rw [if_pos hempty]
    rw [Yrs.applyUpdateV2, if_pos hempty] at happlied
    cases happlied
    rw [Buffers.setDoc_doc]
    rfl
  · rw [if_neg hempty, Program.run_mapError, applyTo, Program.run_write, happlied]
    rfl

theorem applyPeerDoc_error
    (happlied : yrs.applyUpdateV2 (buffers.doc selection)
      (DecryptedResource.entryBytes data "updates") = .error error) :
    ∃ message, (applyPeerDoc selection data).run buffers = (.error message, buffers) := by
  rw [applyPeerDoc]
  by_cases hempty : (DecryptedResource.entryBytes data "updates").isEmpty = true
  · rw [Yrs.applyUpdateV2, if_pos hempty] at happlied
    cases happlied
  · rw [if_neg hempty, Program.run_mapError, applyTo, Program.run_write, happlied]
    exact ⟨_, rfl⟩

theorem describeFor_run (selection : DocSelection) (peerStateVector : Bytes)
    (buffers : Buffers yrs) :
    SameDocs buffers ((describeFor selection peerStateVector).run buffers).2 ∧
      ((∃ message, ((describeFor selection peerStateVector).run buffers).1 =
          .error message) ↔
        ∃ error, yrs.getDiffUpdateV2 (buffers.doc selection) peerStateVector =
          .error error) := by
  rw [describeFor, Program.run_bind, Program.run_mapError, getDiff, Program.run_atomically]
  cases hdiff : yrs.getDiffUpdateV2 (buffers.doc selection) peerStateVector with
  | error error =>
      refine ⟨fun other => ?_, iff_of_true ⟨_, rfl⟩ ⟨error, rfl⟩⟩
      exact Buffers.doc_compare selection other buffers
  | ok updatesForPeer =>
      refine ⟨fun other => ?_, iff_of_false ?_ ?_⟩
      · exact Buffers.doc_compare selection other buffers
      · rintro ⟨message, hmessage⟩
        cases hmessage
      · rintro ⟨error, herror⟩
        cases herror

theorem processDocUpdatesAndDiff_error
    (happlied : applied peerData selection buffers = .error error) :
    ∃ message, (processDocUpdatesAndDiff peerData selection).run buffers =
      (.error message, buffers) := by
  unfold applied partBytes at happlied
  rw [processDocUpdatesAndDiff]
  cases hdata : Value.get (.object peerData) selection.stateKey with
  | none =>
      rw [hdata] at happlied
      cases happlied
  | some data =>
      rw [hdata] at happlied
      obtain ⟨message, hrun⟩ := applyPeerDoc_error happlied
      refine ⟨message, ?_⟩
      dsimp only
      rw [Program.run_bind, hrun]
      rfl

theorem processDocUpdatesAndDiff_ok (happlied : applied peerData selection buffers = .ok doc) :
    SameDocs (buffers.setDoc selection doc)
        ((processDocUpdatesAndDiff peerData selection).run buffers).2 ∧
      ((∃ message, ((processDocUpdatesAndDiff peerData selection).run buffers).1 =
          .error message) ↔
        ∃ error, yrs.getDiffUpdateV2 doc (partBytes peerData selection "state_vector") =
          .error error) := by
  unfold applied at happlied
  unfold partBytes at happlied ⊢
  rw [processDocUpdatesAndDiff]
  cases hdata : Value.get (.object peerData) selection.stateKey with
  | none =>
      rw [hdata] at happlied
      obtain rfl : buffers.doc selection = doc := Except.ok.inj happlied
      rw [Buffers.setDoc_doc]
      refine ⟨fun _ => rfl, iff_of_false ?_ ?_⟩
      · rintro ⟨message, hmessage⟩
        cases hmessage
      · rintro ⟨error, herror⟩
        cases herror
  | some data =>
      rw [hdata] at happlied
      dsimp only
      rw [Program.run_bind, applyPeerDoc_ok happlied, Program.andThen_ok]
      by_cases hempty : (DecryptedResource.entryBytes data "state_vector").isEmpty = true
      · rw [if_pos hempty, Yrs.getDiffUpdateV2, if_pos hempty]
        refine ⟨fun _ => rfl, iff_of_false ?_ ?_⟩
        · rintro ⟨message, hmessage⟩
          cases hmessage
        · rintro ⟨error, herror⟩
          cases herror
      · rw [if_neg hempty]
        have hdescribe := describeFor_run selection
          (DecryptedResource.entryBytes data "state_vector") (buffers.setDoc selection doc)
        rw [Buffers.doc_setDoc, if_pos rfl] at hdescribe
        exact hdescribe

theorem parsePeer_run (what : String) (json : JsonText) (buffers : Buffers yrs) :
    (parsePeer what json).run buffers =
      (json.parseObject.mapError (fun error => "Failed to parse " ++ what ++ ": " ++ error),
        buffers) := by
  rw [parsePeer, Program.run_mapError, Program.run_ofExcept]

theorem keeps_iff (happlied : applied peerData selection buffers = .ok doc) :
    Keeps peerData selection buffers ↔ doc = buffers.doc selection := by
  simp [Keeps, happlied]

theorem refuses_iff (happlied : applied peerData selection buffers = .ok doc) :
    Refuses peerData selection buffers ↔
      ∃ error, yrs.getDiffUpdateV2 doc (partBytes peerData selection "state_vector") =
        .error error := by
  simp [Refuses, happlied]

theorem keeps_of_error (happlied : applied peerData selection buffers = .error error) :
    Keeps peerData selection buffers := by
  simp [Keeps, happlied]

theorem sameDocs_iff (hdocs : SameDocs (buffers.setDoc selection doc) after) :
    SameDocs buffers after ↔ doc = buffers.doc selection := by
  constructor
  · intro hsame
    rw [← hsame selection, hdocs selection, Buffers.doc_setDoc, if_pos rfl]
  · rintro rfl
    rw [Buffers.setDoc_doc] at hdocs
    exact hdocs

theorem sameDocs_both_iff {mainDoc imageDoc : yrs.Doc} {between : Buffers yrs}
    (hmain : SameDocs (buffers.setDoc .main mainDoc) between)
    (himage : SameDocs (between.setDoc .image imageDoc) after) :
    SameDocs buffers after ↔
      mainDoc = buffers.doc .main ∧ imageDoc = buffers.doc .image := by
  have hdoc (selection : DocSelection) : after.doc selection =
      ((buffers.setDoc .main mainDoc).setDoc .image imageDoc).doc selection := by
    rw [himage selection, Buffers.doc_setDoc, Buffers.doc_setDoc, hmain selection]
  constructor
  · intro hsame
    exact ⟨(hdoc .main).symm.trans (hsame .main), (hdoc .image).symm.trans (hsame .image)⟩
  · rintro ⟨rfl, rfl⟩ selection
    rw [hdoc selection, Buffers.setDoc_doc, Buffers.setDoc_doc]

theorem applyUpdatesAndGenerateDiff_parts {message : String}
    (hfailed : (do
      let mainDoc ← processDocUpdatesAndDiff peerData .main
      let imageDoc ← processDocUpdatesAndDiff peerData .image
      return .encoded (.object (mainDoc ++ imageDoc)) : NoteTask yrs JsonText).run buffers =
        (.error message, after)) :
    SameDocs buffers after ↔ Keeps peerData .main buffers ∧
      (Refuses peerData .main buffers ∨ Keeps peerData .image buffers) := by
  cases hmain : applied peerData .main buffers with
  | error error =>
      obtain ⟨_, hrun⟩ := processDocUpdatesAndDiff_error hmain
      rw [Program.run_bind, hrun] at hfailed
      cases hfailed
      refine iff_of_true (fun _ => rfl) ⟨keeps_of_error hmain, .inl ?_⟩
      intro doc hdoc
      rw [hmain] at hdoc
      cases hdoc
  | ok mainDoc =>
      obtain ⟨hdocs, htold⟩ := processDocUpdatesAndDiff_ok hmain
      rw [keeps_iff hmain, refuses_iff hmain, ← htold]
      rw [Program.run_bind] at hfailed
      generalize (processDocUpdatesAndDiff peerData .main).run buffers = outcome at *
      obtain ⟨outcome, between⟩ := outcome
      cases outcome with
      | error error =>
          cases hfailed
          rw [sameDocs_iff hdocs]
          simp
      | ok mainAnswer =>
          have hother : between.doc .image = buffers.doc .image := by
            rw [hdocs .image, Buffers.doc_setDoc, if_neg (by decide)]
          have happlied : applied peerData .image between =
              applied peerData .image buffers := by
            rw [applied, applied, hother]
          have hanswered : ¬ ∃ message, (Except.ok mainAnswer :
              Except String (List (String × Value))) = .error message := by
            simp
          simp only [hanswered, false_or]
          rw [Program.andThen_ok, Program.run_bind] at hfailed
          cases himage : applied peerData .image buffers with
          | error error =>
              obtain ⟨_, hrun⟩ := processDocUpdatesAndDiff_error (happlied.trans himage)
              rw [hrun] at hfailed
              cases hfailed
              rw [sameDocs_iff hdocs]
              exact (and_iff_left (keeps_of_error himage)).symm
          | ok imageDoc =>
              obtain ⟨himageDocs, -⟩ := processDocUpdatesAndDiff_ok (happlied.trans himage)
              rw [keeps_iff himage]
              generalize (processDocUpdatesAndDiff peerData .image).run between = imageOutcome
                at *
              obtain ⟨imageOutcome, last⟩ := imageOutcome
              cases imageOutcome with
              | error error =>
                  cases hfailed
                  exact sameDocs_both_iff hdocs himageDocs
              | ok imageAnswer => cases hfailed

theorem applyPeerEntry_error (happlied : applied peerData selection buffers = .error error) :
    ∃ message, (applyPeerEntry peerData selection).run buffers = (.error message, buffers) := by
  unfold applied partBytes at happlied
  rw [applyPeerEntry]
  cases hdata : Value.get (.object peerData) selection.stateKey with
  | none =>
      rw [hdata] at happlied
      cases happlied
  | some data =>
      rw [hdata] at happlied
      exact applyPeerDoc_error happlied

theorem applyPeerEntry_ok (happlied : applied peerData selection buffers = .ok doc) :
    (applyPeerEntry peerData selection).run buffers =
      (.ok .unit, buffers.setDoc selection doc) := by
  unfold applied partBytes at happlied
  rw [applyPeerEntry]
  cases hdata : Value.get (.object peerData) selection.stateKey with
  | none =>
      rw [hdata] at happlied
      obtain rfl : buffers.doc selection = doc := Except.ok.inj happlied
      rw [Buffers.setDoc_doc]
      rfl
  | some data =>
      rw [hdata] at happlied
      exact applyPeerDoc_ok happlied

theorem applyPeerUpdates_parts {message : String}
    (hfailed : (do
      applyPeerEntry peerData .main
      applyPeerEntry peerData .image : NoteTask yrs PUnit).run buffers =
        (.error message, after)) : SameDocs buffers after ↔ Keeps peerData .main buffers := by
  rw [Program.run_bind] at hfailed
  cases hmain : applied peerData .main buffers with
  | error error =>
      obtain ⟨_, hrun⟩ := applyPeerEntry_error hmain
      rw [hrun] at hfailed
      cases hfailed
      exact iff_of_true (fun _ => rfl) (keeps_of_error hmain)
  | ok mainDoc =>
      rw [applyPeerEntry_ok hmain, Program.andThen_ok] at hfailed
      rw [keeps_iff hmain]
      cases himage : applied peerData .image (buffers.setDoc .main mainDoc) with
      | error error =>
          obtain ⟨_, hrun⟩ := applyPeerEntry_error himage
          rw [hrun] at hfailed
          cases hfailed
          exact sameDocs_iff fun _ => rfl
      | ok imageDoc =>
          rw [applyPeerEntry_ok himage] at hfailed
          cases hfailed

end NoteTask

/-- A failed call leaves the documents as they were exactly when the parts that it
applied before it failed brought nothing. -/
theorem failed_updates_kept_iff {peerUpdates : JsonText} {buffers after : Buffers yrs}
    {message : String} :
    ((NoteTask.applyUpdatesAndGenerateDiff peerUpdates).run buffers =
        (.error message, after) →
      (SameDocs buffers after ↔ ExchangeKept peerUpdates buffers)) ∧
      ((NoteTask.applyPeerUpdates peerUpdates).run buffers = (.error message, after) →
        (SameDocs buffers after ↔ UpdatesKept peerUpdates buffers)) := by
  constructor
  · intro hfailed
    rw [NoteTask.applyUpdatesAndGenerateDiff, Program.run_bind, NoteTask.parsePeer_run]
      at hfailed
    unfold ExchangeKept
    cases hparse : peerUpdates.parseObject with
    | error error =>
        rw [hparse] at hfailed
        cases hfailed
        simp [SameDocs]
    | ok peerData =>
        rw [hparse] at hfailed
        rw [NoteTask.applyUpdatesAndGenerateDiff_parts hfailed]
        simp
  · intro hfailed
    rw [NoteTask.applyPeerUpdates, Program.run_bind, NoteTask.parsePeer_run] at hfailed
    unfold UpdatesKept
    cases hparse : peerUpdates.parseObject with
    | error error =>
        rw [hparse] at hfailed
        cases hfailed
        simp [SameDocs]
    | ok peerData =>
        rw [hparse] at hfailed
        rw [NoteTask.applyPeerUpdates_parts hfailed]
        simp

def emptyNote : Buffers Yrs.bits :=
  { noteId := some "n", mainDoc := Yrs.bits.new, imageDoc := Yrs.bits.new
    commentDoc := Yrs.bits.new }

def bundle (main image : Bytes) : JsonText :=
  .encoded (.object
    [(DocSelection.main.stateKey, DecryptedResource.documentEntry main []),
      (DocSelection.image.stateKey, DecryptedResource.documentEntry image [])])

/-- The update of the image document is none, and the main one has been applied. -/
theorem failed_updates_partial :
    ∃ message after,
      (NoteTask.applyUpdatesAndGenerateDiff (bundle [1] [1, 2])).run emptyNote =
          (.error message, after) ∧
        (NoteTask.applyPeerUpdates (bundle [1] [1, 2])).run emptyNote =
          (.error message, emptyNote.setDoc .main (1 : UInt8)) ∧
        ¬ SameDocs emptyNote after := by
  refine ⟨_, _, rfl, rfl, fun hsame => ?_⟩
  have hmain : (1 : UInt8) = 0 := hsame .main
  exact absurd hmain (by decide)

theorem failed_updates_kept_first :
    ∃ message after,
      (NoteTask.applyUpdatesAndGenerateDiff (bundle [1, 2] [1])).run emptyNote =
          (.error message, after) ∧
        (SameDocs emptyNote after ↔ ExchangeKept (bundle [1, 2] [1]) emptyNote) :=
  ⟨_, _, rfl, failed_updates_kept_iff.1 rfl⟩

end Osvauld.Livnote
