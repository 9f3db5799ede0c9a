import Osvauld.Data.Interleaving
import Osvauld.Livnote.DocHandles

namespace Osvauld.Livnote

open Osvauld.Core Data

/-! The updates of the editor and of peers while one note stays open: what the
calls that bring them make of the documents, whatever their overlap. -/

inductive UpdateCall where
  | applyUpdate (newUpdates : Bytes) (docType : String)
  | applyUpdatesAndGenerateDiff (peerUpdates : JsonText)
  | applyPeerUpdates (peerUpdates : JsonText)

namespace UpdateCall

def task {yrs : Yrs} : UpdateCall → HandleTask yrs PUnit
  | applyUpdate newUpdates docType => HandleTask.applyUpdate newUpdates docType
  | applyUpdatesAndGenerateDiff peerUpdates => do
      let _ ← HandleTask.applyUpdatesAndGenerateDiff peerUpdates
      return .unit
  | applyPeerUpdates peerUpdates => HandleTask.applyPeerUpdates peerUpdates

def passed : UpdateCall → DocSelection → Bytes
  | applyUpdate newUpdates docType, selection =>
      if selection = .ofDocType docType then newUpdates else []
  | applyUpdatesAndGenerateDiff peerUpdates, selection =>
      peerUpdatesFor peerUpdates selection
  | applyPeerUpdates peerUpdates, selection => peerUpdatesFor peerUpdates selection

def Takes : UpdateCall → DocSelection → Prop
  | applyUpdate _ _, _ => True
  | applyUpdatesAndGenerateDiff _, selection => selection ≠ .comment
  | applyPeerUpdates _, selection => selection ≠ .comment

end UpdateCall

variable {yrs : Yrs} {L : Type*} [SemilatticeSup L] [OrderBot L]
variable (lawful : ExactYrs yrs L)

structure DocsGrow (before after : CurrentNote yrs) : Prop where
  held : after.held = before.held
  docs : ∀ handle, lawful.state (before.docs handle) ≤ lawful.state (after.docs handle)

instance : IsPreorder (CurrentNote yrs) (DocsGrow lawful) where
  refl _ := ⟨rfl, fun _ => le_rfl⟩
  trans _ _ _ hfirst hsecond :=
    ⟨hsecond.held.trans hfirst.held,
      fun handle => (hfirst.docs handle).trans (hsecond.docs handle)⟩

def Contains (selection : DocSelection) (update : Bytes) (note : CurrentNote yrs) : Prop :=
  lawful.meaning update ≤ lawful.state (note.doc selection)

variable {before after since : CurrentNote yrs} {selection : DocSelection}
variable {update : Bytes}

theorem Contains.later (hin : Contains lawful selection update before)
    (hgrows : DocsGrow lawful before after) : Contains lawful selection update after := by
  have hdoc : lawful.state (before.doc selection) ≤ lawful.state (after.doc selection) := by
    unfold CurrentNote.doc
    rw [hgrows.held]
    exact hgrows.docs _
  exact le_trans hin (WithBot.coe_le_coe.mpr hdoc)

theorem contains_nil (note : CurrentNote yrs) : Contains lawful selection [] note := by
  unfold Contains
  rw [lawful.meaning_nil]
  exact WithBot.coe_le_coe.mpr bot_le

namespace HandleTask

theorem cloneDoc_grows : Program.Respects (DocsGrow lawful)
    (fun doc note => doc = note.held selection) since (cloneDoc selection) := by
  refine .read fun note doc _ hdoc => ?_
  cases hdoc
  rfl

variable {doc : Nat}

theorem applyUpdateV2_grows (hdoc : doc = since.held selection) :
    Program.Respects (DocsGrow lawful)
      (fun _ note => doc = note.held selection ∧ Contains lawful selection update note)
      since (applyUpdateV2 doc update) := by
  have hstep : ∀ (note : CurrentNote yrs) doc',
      yrs.applyUpdateV2 (note.docs doc) update = .ok doc' →
      DocsGrow lawful note (note.setDoc doc doc') ∧
        lawful.meaning update ≤ lawful.state doc' := by
    intro note doc' happly
    obtain ⟨brought, hmeaning, hstate⟩ := lawful.applyUpdateV2_ok happly
    refine ⟨⟨rfl, fun handle => ?_⟩, ?_⟩
    · rw [CurrentNote.docs_setDoc]
      split
      · next heq => rw [heq, hstate]; exact le_sup_left
      · exact le_rfl
    · rw [hmeaning, hstate]
      exact WithBot.coe_le_coe.mpr le_sup_right
  refine .atomically (fun note _ => ?_) fun note value hnote hvalue => ?_
  · dsimp only
    cases happly : yrs.applyUpdateV2 (note.docs doc) update with
    | error error => exact refl_of _ note
    | ok doc' => exact (hstep note doc' happly).1
  · dsimp only at hvalue ⊢
    cases happly : yrs.applyUpdateV2 (note.docs doc) update with
    | error error => simp [happly, Except.map] at hvalue
    | ok doc' =>
        have hheld : doc = note.held selection := by rw [hnote.held, hdoc]
        refine ⟨hheld, ?_⟩
        unfold Contains CurrentNote.doc
        simpa [Except.map, CurrentNote.docs_setDoc, ← hheld] using (hstep note doc' happly).2

theorem applyUpdateV2_succeeds {brought : L} (hmeaning : lawful.meaning update = brought)
    (doc : Nat) : (applyUpdateV2 doc update : HandleTask yrs PUnit).Succeeds := by
  refine .atomically fun note => ?_
  obtain ⟨doc', happly, _⟩ := lawful.applyUpdateV2_meaning hmeaning (note.docs doc)
  exact ⟨.unit, by simp [happly, Except.map]⟩

theorem storeDoc_grows (hdoc : doc = since.held selection) :
    Program.Respects (DocsGrow lawful) (fun _ _ => True) since (storeDoc selection doc) := by
  refine .write fun note note' hnote hstored => ?_
  have hheld : doc = note.held selection := by rw [hnote.held, hdoc]
  cases hstored
  rw [hheld, CurrentNote.hold_held]
  exact refl_of _ note

theorem storeDoc_contains (hdoc : doc = since.held selection)
    (hin : Contains lawful selection update since) :
    Program.Respects (DocsGrow lawful) (fun _ note => Contains lawful selection update note)
      since (storeDoc selection doc) :=
  (storeDoc_grows lawful hdoc).kept fun _ _ hgrows => hin.later lawful hgrows

theorem applyUpdate_contains (newUpdates : Bytes) (docType : String) :
    Program.Respects (DocsGrow lawful)
      (fun _ note => Contains lawful (.ofDocType docType) newUpdates note) since
      (applyUpdate newUpdates docType) := by
  unfold applyUpdate
  split
  · next hempty =>
      rw [List.isEmpty_iff.mp hempty]
      exact .pure (contains_nil lawful since)
  refine .bind (cloneDoc_grows lawful) fun tempDoc note _ hdoc => ?_
  have happly : Program.Respects (DocsGrow lawful) (fun _ note => tempDoc = note.held _ ∧
      Contains lawful _ newUpdates note) note (applyUpdateV2 tempDoc newUpdates) :=
    applyUpdateV2_grows lawful hdoc
  cases hmeaning : lawful.meaning newUpdates with
  | bot =>
      -- Bytes that are no update are in every document.
      have hin : ∀ note, Contains lawful (.ofDocType docType) newUpdates note := by
        intro note
        unfold Contains
        rw [hmeaning]
        exact bot_le
      refine .bind happly.attempt fun applied after _ happlied => ?_
      cases applied with
      | ok _ => exact storeDoc_contains lawful (happlied _ rfl).1 (hin after)
      | error _ => exact .pure (hin after)
  | coe brought =>
      refine .bind (happly.attempt_ok (applyUpdateV2_succeeds lawful hmeaning tempDoc))
        fun applied after _ happlied => ?_
      obtain ⟨_, rfl, hheld, hin⟩ := happlied
      exact storeDoc_contains lawful hheld hin

theorem describeFor_grows (doc : Nat) (peerStateVector : Bytes) :
    Program.Respects (DocsGrow lawful) (fun _ _ => True) since
      (describeFor selection doc peerStateVector) := by
  refine .bind (.mapError _ (.read fun _ _ _ _ => trivial)) fun _ _ _ _ => ?_
  exact .bind (.read fun _ _ _ _ => trivial) fun _ _ _ _ => .pure trivial

theorem applyPeerDoc_grows (hdoc : doc = since.held selection) :
    Program.Respects (DocsGrow lawful)
      (fun _ note => doc = note.held selection ∧ Contains lawful selection update note)
      since (applyPeerDoc selection doc update) := by
  unfold applyPeerDoc
  split
  · next hempty =>
      rw [List.isEmpty_iff.mp hempty]
      exact .pure ⟨hdoc, contains_nil lawful since⟩
  · exact (applyUpdateV2_grows lawful hdoc).mapError _

theorem processDocUpdatesAndDiff_contains (peerData : List (String × Value)) :
    Program.Respects (DocsGrow lawful)
      (fun _ note => Contains lawful selection (entryUpdates peerData selection.stateKey) note)
      since (processDocUpdatesAndDiff peerData selection) := by
  refine .bind (cloneDoc_grows lawful) fun doc note _ hdoc => ?_
  unfold entryUpdates
  cases Value.get (.object peerData) selection.stateKey with
  | none => exact .pure (contains_nil lawful note)
  | some data =>
      refine .bind (applyPeerDoc_grows lawful hdoc) fun _ applied _ ⟨hheld, hin⟩ => ?_
      dsimp only
      split
      · exact .pure hin
      · refine .bind (describeFor_grows lawful doc _).reached
          fun answer answered _ ⟨hanswered, _⟩ => ?_
        have hstill : doc = answered.held selection := by rw [hanswered.held, hheld]
        refine .bind (storeDoc_contains lawful hstill (hin.later lawful hanswered))
          fun _ _ _ hstored => .pure hstored

theorem applyPeerEntry_contains (peerData : List (String × Value)) :
    Program.Respects (DocsGrow lawful)
      (fun _ note => Contains lawful selection (entryUpdates peerData selection.stateKey) note)
      since (applyPeerEntry peerData selection) := by
  unfold applyPeerEntry
  dsimp only
  split
  · next hempty =>
      rw [List.isEmpty_iff.mp hempty]
      exact .pure (contains_nil lawful since)
  · refine .bind (cloneDoc_grows lawful) fun doc note _ hdoc => ?_
    refine .bind (applyPeerDoc_grows lawful hdoc) fun _ applied _ ⟨hheld, hin⟩ => ?_
    exact storeDoc_contains lawful hheld hin

theorem parsePeer_grows (what : String) (json : JsonText) :
    Program.Respects (DocsGrow lawful) (fun peerData _ => json.parseObject = .ok peerData)
      since (parsePeer what json) :=
  .mapError _ (.ofExcept fun _ hparse => hparse)

theorem applyUpdatesAndGenerateDiff_contains (peerUpdates : JsonText) :
    Program.Respects (DocsGrow lawful)
      (fun _ note => ∀ selection, selection ≠ .comment →
        Contains lawful selection (peerUpdatesFor peerUpdates selection) note) since
      (applyUpdatesAndGenerateDiff peerUpdates) := by
  refine .bind (parsePeer_grows lawful _ peerUpdates) fun peerData _ _ hparse => ?_
  refine .bind (processDocUpdatesAndDiff_contains lawful peerData)
    fun mainDoc _ _ hmain => ?_
  refine .bind (processDocUpdatesAndDiff_contains lawful peerData).reached
    fun imageDoc note _ ⟨hlater, himage⟩ => .pure fun selection hselection => ?_
  unfold peerUpdatesFor
  rw [hparse]
  cases selection with
  | main => exact hmain.later lawful hlater
  | image => exact himage
  | comment => exact absurd rfl hselection

theorem applyPeerUpdates_contains (peerUpdates : JsonText) :
    Program.Respects (DocsGrow lawful)
      (fun _ note => ∀ selection, selection ≠ .comment →
        Contains lawful selection (peerUpdatesFor peerUpdates selection) note) since
      (applyPeerUpdates peerUpdates) := by
  refine .bind (parsePeer_grows lawful _ peerUpdates) fun peerData _ _ hparse => ?_
  refine .bind (applyPeerEntry_contains lawful peerData) fun _ _ _ hmain => ?_
  refine (applyPeerEntry_contains lawful peerData).reached.mono
    fun _ note ⟨hlater, himage⟩ selection hselection => ?_
  unfold peerUpdatesFor
  rw [hparse]
  cases selection with
  | main => exact hmain.later lawful hlater
  | image => exact himage
  | comment => exact absurd rfl hselection

end HandleTask

theorem UpdateCall.task_contains (call : UpdateCall) :
    Program.Respects (DocsGrow lawful)
      (fun _ note => ∀ selection, call.Takes selection →
        Contains lawful selection (call.passed selection) note) since call.task := by
  cases call with
  | applyUpdate newUpdates docType =>
      refine (HandleTask.applyUpdate_contains lawful newUpdates docType).mono
        fun _ note hin selection _ => ?_
      by_cases hselection : selection = .ofDocType docType
      · simpa [passed, hselection] using hin
      · simpa [passed, hselection] using contains_nil lawful note
  | applyUpdatesAndGenerateDiff peerUpdates =>
      exact .bind (HandleTask.applyUpdatesAndGenerateDiff_contains lawful peerUpdates)
        fun _ _ _ hin => .pure hin
  | applyPeerUpdates peerUpdates =>
      exact HandleTask.applyPeerUpdates_contains lawful peerUpdates

def NothingNew (call : UpdateCall) (note : CurrentNote yrs) : Prop :=
  ∀ selection, ¬call.Takes selection → Contains lawful selection (call.passed selection) note

variable {start : CurrentNote yrs} {events : List (PoolEvent UpdateCall)}

def afterUpdateCalls (note : CurrentNote yrs) (events : List (PoolEvent UpdateCall)) :
    Pool UpdateCall (CurrentNote yrs) String PUnit :=
  run (Pool.step UpdateCall.task) { state := note } events

theorem grows_between {earlier later : List (PoolEvent UpdateCall)}
    (hearlier : earlier <+: later) :
    DocsGrow lawful (afterUpdateCalls start earlier).state (afterUpdateCalls start later).state :=
  Pool.allowed_between (fun call _ _ => call.task_contains lawful)
    (fun _ _ _ _ _ _ _ _ => trivial) hearlier List.prefix_rfl

/-- However the calls overlap, what was passed to those that have returned
without an error is in the documents. -/
theorem passed_updates_contained
    (hnothing : ∀ earlier call, earlier ++ [.start call] <+: events →
      NothingNew lawful call (afterUpdateCalls start earlier).state) :
    ∀ task ∈ (afterUpdateCalls start events).running, task.left = .done (.ok .unit) →
      ∀ selection, Contains lawful selection (task.call.passed selection)
        (afterUpdateCalls start events).state := by
  intro task htask hdone selection
  have hrun := (Pool.allowed_run (fun call _ _ => call.task_contains lawful)
    (fun _ _ _ _ _ _ _ _ => trivial) events List.prefix_rfl).2 task htask
  by_cases htakes : task.call.Takes selection
  · refine hrun.result (fun _ _ hgrows hin selection htakes => ?_) hdone selection htakes
    exact (hin selection htakes).later lawful hgrows
  · obtain ⟨earlier, hearlier⟩ := Pool.started_of_running _ htask
    have hbefore := (List.prefix_append earlier _).trans hearlier
    exact (hnothing earlier task.call hearlier selection htakes).later lawful
      (grows_between lawful hbefore)

def peerMessage (selection : DocSelection) (byte : UInt8) : JsonText :=
  .encoded (.object
    [(selection.stateKey, DecryptedResource.documentEntry [byte] [])])

theorem peerUpdatesFor_peerMessage (selection : DocSelection) (byte : UInt8) :
    peerUpdatesFor (peerMessage selection byte) selection = [byte] := by
  simp [peerUpdatesFor, peerMessage, JsonText.parseObject, entryUpdates, Value.get]

def overlappingUpdates : List (PoolEvent UpdateCall) :=
  [.start (.applyUpdate [1] "main"), .start (.applyPeerUpdates (peerMessage .main 2)),
    .advance 0, .advance 1, .advance 0, .advance 1, .advance 1, .advance 0]

theorem passed_updates_contained_overlapping :
    Contains Yrs.exactBits .main [1] (afterUpdateCalls .default overlappingUpdates).state ∧
      Contains Yrs.exactBits .main [2] (afterUpdateCalls .default overlappingUpdates).state := by
  have hnothing : ∀ earlier call, earlier ++ [.start call] <+: overlappingUpdates →
      NothingNew Yrs.exactBits call (afterUpdateCalls .default earlier).state := by
    intro earlier call hearlier selection htakes
    have hcall : call = .applyUpdate [1] "main" ∨
        call = .applyPeerUpdates (peerMessage .main 2) := by
      have hmem : PoolEvent.start call ∈ overlappingUpdates := hearlier.subset (by simp)
      simpa [overlappingUpdates] using hmem
    rcases hcall with rfl | rfl
    · exact absurd trivial htakes
    · obtain rfl : selection = .comment := not_ne_iff.mp htakes
      exact contains_nil Yrs.exactBits _
  have hcontained := passed_updates_contained Yrs.exactBits hnothing
  refine ⟨hcontained _ (List.mem_of_getElem? (i := 0) rfl) rfl .main, ?_⟩
  rw [← peerUpdatesFor_peerMessage .main 2]
  exact hcontained _ (List.mem_of_getElem? (i := 1) rfl) rfl .main

/-- The update of a peer for the comments is passed and lost. -/
theorem peer_comment_update_lost :
    ∃ task ∈ (afterUpdateCalls (.default : CurrentNote Yrs.bits)
        [.start (.applyPeerUpdates (peerMessage .comment 1))]).running,
      task.left = .done (.ok .unit) ∧ ¬Contains Yrs.exactBits .comment
        (task.call.passed .comment) (afterUpdateCalls .default
          [.start (.applyPeerUpdates (peerMessage .comment 1))]).state := by
  refine ⟨_, List.mem_of_getElem? (i := 0) rfl, rfl, fun hin => ?_⟩
  dsimp only [UpdateCall.passed] at hin
  rw [peerUpdatesFor_peerMessage] at hin
  have hle : updateBits 1 ≤ updateBits 0 := WithBot.coe_le_coe.mp hin
  exact absurd (hle 0) (by decide)

end Osvauld.Livnote
