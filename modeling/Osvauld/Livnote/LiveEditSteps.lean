import Mathlib.Order.BoundedOrder.Lattice
import Osvauld.Livnote.LiveEdit

namespace Osvauld.Livnote

open Osvauld.Core Data

/-! What the handlers of live edits do to the open note, and what they answer,
while others change the note between their steps. -/

variable {yrs : Yrs} {L : Type*} [SemilatticeSup L] [OrderBot L]
variable (lawful : ExactYrs yrs L)

def Arrived (arriving : Option (DocSelection → Bytes)) (buffers : Buffers yrs) :
    Prop :=
  ∃ updates, arriving = some updates ∧ ∀ selection ∈ DocSelection.exchanged,
    lawful.meaning (updates selection) ≤ content lawful buffers selection

structure Advances (connectionId : String) (arriving : Option (DocSelection → Bytes))
    (buffers buffers' : Buffers yrs) : Prop where
  noteId : buffers'.noteId = buffers.noteId
  content : content lawful buffers ≤ content lawful buffers'
  compared : buffers.compared ⊆ buffers'.compared
  listed : connectionId ∈ buffers'.activeConnections →
    connectionId ∈ buffers.activeConnections ∨ Arrived lawful arriving buffers'

variable {connectionId : String} {arriving : Option (DocSelection → Bytes)}

theorem Arrived.mono {buffers buffers' : Buffers yrs}
    (harrived : Arrived lawful arriving buffers)
    (hcontent : content lawful buffers ≤ content lawful buffers') :
    Arrived lawful arriving buffers' := by
  obtain ⟨updates, hupdates, hmeaning⟩ := harrived
  refine ⟨updates, hupdates, fun selection hselection => ?_⟩
  exact (hmeaning selection hselection).trans
    (WithBot.coe_le_coe.mpr (hcontent selection))

instance : IsPreorder (Buffers yrs) (Advances lawful connectionId arriving) where
  refl _ := ⟨rfl, le_rfl, List.Subset.refl _, .inl⟩
  trans first second third hfirst hsecond := by
    refine ⟨hsecond.noteId.trans hfirst.noteId, hfirst.content.trans hsecond.content,
      List.Subset.trans hfirst.compared hsecond.compared, fun hlisted => ?_⟩
    rcases hsecond.listed hlisted with hbefore | harrived
    · rcases hfirst.listed hbefore with hbefore | harrived
      · exact .inl hbefore
      · exact .inr (harrived.mono lawful hsecond.content)
    · exact .inr harrived

/-- An answer for a document: its updates are what the document as it was
compared has, and the peer has not. -/
structure Covers (peer : DocSelection → L) (buffers : Buffers yrs)
    (selection : DocSelection) (updates : Bytes) (ours : yrs.Doc) : Prop where
  ours : lawful.state ours ≤ content lawful buffers selection
  updates : ∃ brought doc, lawful.meaning updates = (brought : L) ∧
    (selection, doc) ∈ buffers.compared ∧ lawful.state doc ≤ peer selection ⊔ brought

theorem Covers.mono {peer : DocSelection → L} {buffers buffers' : Buffers yrs}
    {selection : DocSelection} {updates : Bytes} {ours : yrs.Doc}
    (hcovers : Covers lawful peer buffers selection updates ours)
    (hcontent : content lawful buffers ≤ content lawful buffers')
    (hcompared : buffers.compared ⊆ buffers'.compared) :
    Covers lawful peer buffers' selection updates ours := by
  obtain ⟨hours, brought, doc, hmeaning, hmem, hdoc⟩ := hcovers
  exact ⟨hours.trans (hcontent selection), brought, doc, hmeaning, hcompared hmem, hdoc⟩

variable {since : Buffers yrs} {α : Type}

theorem getStateVector_follows (selection : DocSelection) :
    Program.Respects (Advances lawful connectionId arriving)
      (fun vector buffers => ∃ ours, vector = yrs.stateVector ours ∧
        lawful.state ours ≤ content lawful buffers selection) since
      (NoteTask.getStateVector selection) := by
  refine .read fun buffers vector _ hvector => ?_
  cases hvector
  exact ⟨buffers.doc selection, rfl, le_rfl⟩

theorem applyTo_follows (selection : DocSelection) (update : Bytes) :
    Program.Respects (Advances lawful connectionId arriving)
      (fun _ buffers => lawful.meaning update ≤ content lawful buffers selection) since
      (NoteTask.applyTo selection update) := by
  have hstep : ∀ (buffers : Buffers yrs) doc,
      yrs.applyUpdateV2 (buffers.doc selection) update = .ok doc →
      content lawful buffers ≤ content lawful (buffers.setDoc selection doc) ∧
        lawful.meaning update ≤
          content lawful (buffers.setDoc selection doc) selection := by
    intro buffers doc happly
    obtain ⟨brought, hmeaning, hstate⟩ := lawful.applyUpdateV2_ok happly
    refine ⟨fun other => ?_, ?_⟩
    · by_cases hother : other = selection
      · simp [content, Buffers.doc_setDoc, hother, hstate]
      · simp [content, Buffers.doc_setDoc, hother]
    · rw [hmeaning]
      simp [content, Buffers.doc_setDoc, hstate]
  refine .atomically (fun buffers _ => ?_) fun buffers value _ hvalue => ?_
  · dsimp only
    cases happly : yrs.applyUpdateV2 (buffers.doc selection) update with
    | error error => exact refl_of _ _
    | ok doc => exact ⟨by simp [Except.map], (hstep buffers doc happly).1, by simp [Except.map],
        fun hlisted => .inl (by simpa [Except.map] using hlisted)⟩
  · dsimp only at hvalue ⊢
    cases happly : yrs.applyUpdateV2 (buffers.doc selection) update with
    | error error => simp [happly, Except.map] at hvalue
    | ok doc => exact (hstep buffers doc happly).2

theorem applyTo_succeeds {update : Bytes} {brought : L}
    (hmeaning : lawful.meaning update = brought) (selection : DocSelection) :
    (NoteTask.applyTo selection update : NoteTask yrs PUnit).Succeeds := by
  refine .atomically fun buffers => ?_
  obtain ⟨doc, happly, _⟩ :=
    lawful.applyUpdateV2_meaning hmeaning (buffers.doc selection)
  exact ⟨.unit, by simp [happly, Except.map]⟩

theorem applyUpdate_follows (update : Bytes) (docType : String) :
    Program.Respects (Advances lawful connectionId arriving)
      (fun _ buffers => lawful.meaning update ≤
        content lawful buffers (DocSelection.ofDocType docType)) since
      (NoteTask.applyUpdate update docType) := by
  unfold NoteTask.applyUpdate
  split
  · next hempty =>
      rw [List.isEmpty_iff.mp hempty, lawful.meaning_nil]
      exact .pure (WithBot.coe_le_coe.mpr bot_le)
  · have happly : Program.Respects (Advances lawful connectionId arriving) _ since _ :=
      applyTo_follows lawful (DocSelection.ofDocType docType) update
    cases hmeaning : lawful.meaning update with
    | bot => exact .bind happly.attempt fun _ _ _ _ => .pure bot_le
    | coe brought =>
        refine .bind (happly.attempt_ok (applyTo_succeeds lawful hmeaning _))
          fun _ _ _ ⟨_, _, hin⟩ => .pure ?_
        exact hmeaning ▸ hin

theorem getDiff_follows (selection : DocSelection) (peer : yrs.Doc) :
    Program.Respects (Advances lawful connectionId arriving)
      (fun updates buffers => ∃ brought doc, lawful.meaning updates = (brought : L) ∧
        (selection, doc) ∈ buffers.compared ∧
          lawful.state doc ≤ lawful.state peer ⊔ brought) since
      (NoteTask.getDiff selection (yrs.stateVector peer)) := by
  refine .atomically (fun buffers _ => ?_) fun buffers updates _ hupdates => ?_
  · exact ⟨rfl, fun other => by simp [content], fun entry hentry => by
      simp [Buffers.compare, hentry], .inl⟩
  · obtain ⟨update, brought, hdiff, hmeaning, _, hlacked⟩ :=
      lawful.getDiffUpdateV2_stateVector (buffers.doc selection) peer
    obtain rfl : update = updates := by simpa [hdiff] using hupdates
    exact ⟨brought, buffers.doc selection, hmeaning, by simp [Buffers.compare], hlacked⟩

def EntryOf (good : Bytes → yrs.Doc → Buffers yrs → Prop) (selection : DocSelection)
    (entries : List (String × Value)) (buffers : Buffers yrs) : Prop :=
  ∃ updates ours, entries = [(selection.stateKey,
      DecryptedResource.documentEntry updates (yrs.stateVector ours))] ∧
    good updates ours buffers

theorem describeFor_follows (selection : DocSelection) (peer : yrs.Doc)
    {theirs : DocSelection → L} (hpeer : lawful.state peer ≤ theirs selection) :
    Program.Respects (Advances lawful connectionId arriving)
      (EntryOf (fun updates ours buffers =>
        Covers lawful theirs buffers selection updates ours) selection) since
      (NoteTask.describeFor selection (yrs.stateVector peer)) := by
  refine .bind ((getDiff_follows lawful selection peer).mapError _) fun updates buffers _ ⟨brought, doc, hmeaning, hmem, hdoc⟩ => ?_
  refine .bind (getStateVector_follows lawful selection).reached
    fun vector later _ ⟨hlater, ours, hvector, hours⟩ => ?_
  refine .pure ⟨updates, ours, by rw [hvector], hours, brought, doc, hmeaning,
    hlater.compared hmem, ?_⟩
  exact hdoc.trans (sup_le_sup_right hpeer brought)

theorem getDocStateVector_follows (selection : DocSelection) :
    Program.Respects (Advances lawful connectionId arriving)
      (EntryOf (fun updates ours buffers => updates = [] ∧
        lawful.state ours ≤ content lawful buffers selection) selection) since
      (NoteTask.getDocStateVector selection) := by
  refine .bind (getStateVector_follows lawful selection)
    fun vector buffers _ ⟨ours, hvector, hours⟩ => ?_
  have hnonempty : vector.isEmpty = false := by
    simpa [hvector] using lawful.stateVector_ne_nil ours
  rw [hnonempty]
  exact .pure ⟨[], ours, by rw [hvector], rfl, hours⟩

theorem getStateVectors_follows :
    Program.Respects (Advances lawful connectionId arriving)
      (fun json buffers => ∃ updates ours, Describes json updates ours ∧
        ∀ selection ∈ DocSelection.exchanged,
          lawful.state (ours selection) ≤ content lawful buffers selection) since
      NoteTask.getStateVectors := by
  refine .bind (getDocStateVector_follows lawful .main)
    fun mainDoc first _ ⟨updates, main, hmain, hupdates, hours⟩ => ?_
  refine .bind (getDocStateVector_follows lawful .image).reached
    fun imageDoc second _ ⟨hsecond, updates', image, himage, hupdates', hours'⟩ => ?_
  refine .bind (getDocStateVector_follows lawful .comment).reached
    fun commentDoc third _ ⟨hthird, _⟩ => ?_
  obtain ⟨updates, ours, hdescribes, hgood⟩ := describes_of_entries
    (fun selection _ ours => lawful.state ours ≤ content lawful third selection)
    ⟨updates, main, hmain, hours.trans ((hsecond.content .main).trans (hthird.content .main))⟩
    ⟨updates', image, himage, hours'.trans (hthird.content .image)⟩ commentDoc
  exact .pure ⟨updates, ours, hdescribes, hgood⟩

theorem parsePeer_follows {json : JsonText} {fields : List (String × Value)}
    (hparse : json.parseObject = .ok fields) (what : String) :
    Program.Respects (Advances lawful connectionId arriving)
      (fun found _ => found = fields) since (NoteTask.parsePeer what json) := by
  refine .mapError _ (.ofExcept fun found hfound => ?_)
  exact Except.ok.inj (hfound.symm.trans hparse)

section Entry

variable {fields : List (String × Value)} {selection : DocSelection}
variable {updates : Bytes} {peer : yrs.Doc} {theirs : DocSelection → L}

theorem processDocStateVectors_follows
    (hentry : Value.get (.object fields) selection.stateKey =
      some (DecryptedResource.documentEntry updates (yrs.stateVector peer)))
    (hpeer : lawful.state peer ≤ theirs selection) :
    Program.Respects (Advances lawful connectionId arriving)
      (EntryOf (fun updates ours buffers =>
        Covers lawful theirs buffers selection updates ours) selection) since
      (NoteTask.processDocStateVectors fields selection) := by
  simp only [NoteTask.processDocStateVectors, hentry,
    DecryptedResource.entryBytes_stateVector, List.isEmpty_iff,
    lawful.stateVector_ne_nil, if_false]
  exact describeFor_follows lawful selection peer hpeer

theorem applyPeerDoc_follows (stateVector : Bytes) :
    Program.Respects (Advances lawful connectionId arriving)
      (fun _ buffers => lawful.meaning updates ≤ content lawful buffers selection) since
      (NoteTask.applyPeerDoc selection
        (DecryptedResource.documentEntry updates stateVector)) := by
  unfold NoteTask.applyPeerDoc
  simp only [DecryptedResource.entryBytes_updates]
  split
  · next hempty =>
      rw [List.isEmpty_iff.mp hempty, lawful.meaning_nil]
      exact .pure (WithBot.coe_le_coe.mpr bot_le)
  · exact (applyTo_follows lawful selection updates).mapError _

theorem processDocUpdatesAndDiff_follows
    (hentry : Value.get (.object fields) selection.stateKey =
      some (DecryptedResource.documentEntry updates (yrs.stateVector peer)))
    (hpeer : lawful.state peer ≤ theirs selection) :
    Program.Respects (Advances lawful connectionId arriving)
      (EntryOf (fun answered ours buffers =>
        lawful.meaning updates ≤ content lawful buffers selection ∧
          Covers lawful theirs buffers selection answered ours) selection) since
      (NoteTask.processDocUpdatesAndDiff fields selection) := by
  simp only [NoteTask.processDocUpdatesAndDiff, hentry]
  refine .bind (applyPeerDoc_follows lawful _) fun _ merged _ hmerged => ?_
  simp only [DecryptedResource.entryBytes_stateVector, List.isEmpty_iff,
    lawful.stateVector_ne_nil, if_false]
  refine (describeFor_follows lawful selection peer hpeer).reached.mono
    fun entries buffers ⟨hbuffers, answered, ours, hentries, hcovers⟩ => ?_
  refine ⟨answered, ours, hentries, hmerged.trans ?_, hcovers⟩
  exact WithBot.coe_le_coe.mpr (hbuffers.content selection)

end Entry

section Texts

variable {json : JsonText} {updates : DocSelection → Bytes}
variable {peer : DocSelection → yrs.Doc} {theirs : DocSelection → L}

section

variable (hjson : Describes json updates peer)
  (hpeer : ∀ selection ∈ DocSelection.exchanged, lawful.state (peer selection) ≤ theirs selection)

include hjson hpeer

theorem generateUpdatesForPeer_follows :
    Program.Respects (Advances lawful connectionId arriving)
      (fun answer buffers => ∃ updates ours, Describes answer updates ours ∧
        ∀ selection ∈ DocSelection.exchanged,
          Covers lawful theirs buffers selection (updates selection) (ours selection))
      since (NoteTask.generateUpdatesForPeer json) := by
  obtain ⟨fields, hparse, hentry⟩ := hjson
  have hboth : DocSelection.main ∈ DocSelection.exchanged ∧
      DocSelection.image ∈ DocSelection.exchanged := by simp [DocSelection.exchanged]
  refine .bind (parsePeer_follows lawful hparse _) fun found _ _ hfound => ?_
  subst hfound
  refine .bind (processDocStateVectors_follows lawful (hentry .main hboth.1)
    (hpeer .main hboth.1)) fun mainDoc first _ ⟨_, _, hmain, hmainCovers⟩ => ?_
  refine .bind (processDocStateVectors_follows lawful (hentry .image hboth.2)
    (hpeer .image hboth.2)).reached
      fun imageDoc second _ ⟨hsecond, _, _, himage, himageCovers⟩ => ?_
  obtain ⟨updates, ours, hdescribes, hcovers⟩ := describes_of_entries
    (Covers lawful theirs second)
    ⟨_, _, hmain, hmainCovers.mono lawful hsecond.content hsecond.compared⟩
    ⟨_, _, himage, himageCovers⟩ []
  rw [List.append_nil] at hdescribes
  exact .pure ⟨updates, ours, hdescribes, hcovers⟩

theorem applyUpdatesAndGenerateDiff_follows :
    Program.Respects (Advances lawful connectionId arriving)
      (fun answer buffers => (∀ selection ∈ DocSelection.exchanged,
          lawful.meaning (updates selection) ≤ content lawful buffers selection) ∧
        ∃ updates ours, Describes answer updates ours ∧
          ∀ selection ∈ DocSelection.exchanged,
            Covers lawful theirs buffers selection (updates selection) (ours selection))
      since (NoteTask.applyUpdatesAndGenerateDiff json) := by
  obtain ⟨fields, hparse, hentry⟩ := hjson
  have hboth : DocSelection.main ∈ DocSelection.exchanged ∧
      DocSelection.image ∈ DocSelection.exchanged := by simp [DocSelection.exchanged]
  refine .bind (parsePeer_follows lawful hparse _) fun found _ _ hfound => ?_
  subst hfound
  refine .bind (processDocUpdatesAndDiff_follows lawful (hentry .main hboth.1)
    (hpeer .main hboth.1)) fun mainDoc first _ ⟨_, _, hmain, hmainIn, hmainCovers⟩ => ?_
  refine .bind (processDocUpdatesAndDiff_follows lawful (hentry .image hboth.2)
    (hpeer .image hboth.2)).reached
      fun imageDoc second _ ⟨hsecond, _, _, himage, himageIn, himageCovers⟩ => ?_
  obtain ⟨answered, ours, hdescribes, hcovers⟩ := describes_of_entries
    (Covers lawful theirs second)
    ⟨_, _, hmain, hmainCovers.mono lawful hsecond.content hsecond.compared⟩
    ⟨_, _, himage, himageCovers⟩ []
  rw [List.append_nil] at hdescribes
  refine .pure ⟨fun selection hselection => ?_, answered, ours, hdescribes, hcovers⟩
  rcases List.mem_pair.mp hselection with rfl | rfl
  · exact hmainIn.trans (WithBot.coe_le_coe.mpr (hsecond.content .main))
  · exact himageIn

end

theorem applyPeerUpdates_follows (hjson : Describes json updates peer) :
    Program.Respects (Advances lawful connectionId arriving)
      (fun _ buffers => ∀ selection ∈ DocSelection.exchanged,
        lawful.meaning (updates selection) ≤ content lawful buffers selection)
      since (NoteTask.applyPeerUpdates json) := by
  obtain ⟨fields, hparse, hentry⟩ := hjson
  have happly : ∀ selection ∈ DocSelection.exchanged, ∀ since,
      Program.Respects (Advances lawful connectionId arriving)
        (fun _ buffers => lawful.meaning (updates selection) ≤
          content lawful buffers selection) since
        (NoteTask.applyPeerEntry fields selection) := by
    intro selection hselection since
    simp only [NoteTask.applyPeerEntry, hentry selection hselection]
    exact applyPeerDoc_follows lawful _
  refine .bind (parsePeer_follows lawful hparse _) fun found _ _ hfound => ?_
  subst hfound
  refine .bind (happly .main (by simp [DocSelection.exchanged]) _)
    fun _ first _ hmain => ?_
  refine (happly .image (by simp [DocSelection.exchanged]) _).reached.mono
    fun _ second ⟨hsecond, himage⟩ selection hselection => ?_
  rcases List.mem_pair.mp hselection with rfl | rfl
  · exact hmain.trans (WithBot.coe_le_coe.mpr (hsecond.content .main))
  · exact himage

theorem applyPeerUpdates_succeeds (hjson : Describes json updates peer)
    (hmeaning : ∀ selection ∈ DocSelection.exchanged,
      ∃ brought : L, lawful.meaning (updates selection) = brought) :
    (NoteTask.applyPeerUpdates json : NoteTask yrs PUnit).Succeeds := by
  obtain ⟨fields, hparse, hentry⟩ := hjson
  have happly : ∀ selection ∈ DocSelection.exchanged,
      (NoteTask.applyPeerEntry fields selection : NoteTask yrs PUnit).Succeeds := by
    intro selection hselection
    obtain ⟨brought, hbrought⟩ := hmeaning selection hselection
    simp only [NoteTask.applyPeerEntry, hentry selection hselection,
      NoteTask.applyPeerDoc, DecryptedResource.entryBytes_updates]
    split
    · exact .ok
    · exact .mapError _ (applyTo_succeeds lawful hbrought selection)
  unfold NoteTask.applyPeerUpdates NoteTask.parsePeer
  rw [hparse]
  have hboth : (NoteTask.applyPeerEntry fields .main >>= fun _ =>
      (NoteTask.applyPeerEntry fields .image : NoteTask yrs PUnit)).Succeeds :=
    .bind (happly .main (by simp [DocSelection.exchanged]))
      fun _ => happly .image (by simp [DocSelection.exchanged])
  exact hboth

end Texts

/-- What a message tells is so: `peer` is what the receiver had when the message
was made, and `buffers` what the sender has. -/
def Faithful (resourceId : String) (peer : DocSelection → L) (buffers : Buffers yrs) :
    LiveEditMessage → Prop
  | .documentCheck noteId => noteId = resourceId
  | .stateVectorExchange noteId json => noteId = resourceId ∧
      ∃ updates ours, Describes json updates ours ∧
        ∀ selection ∈ DocSelection.exchanged,
          lawful.state (ours selection) ≤ content lawful buffers selection
  | .updateExchange noteId json => noteId = resourceId ∧
      ∃ updates ours, Describes json updates ours ∧
        ∀ selection ∈ DocSelection.exchanged,
          Covers lawful peer buffers selection (updates selection) (ours selection)
  | .updateExchangeResponse noteId json => noteId = resourceId ∧
      ∃ updates ours, Describes json updates ours ∧
        ∀ selection ∈ DocSelection.exchanged,
          Covers lawful peer buffers selection (updates selection) (ours selection)
  | .documentUpdate noteId _ _ _ => noteId = resourceId
  | .notSameDocument | .documentChange _ | .awarenessUpdate _ _ _ => False

theorem Faithful.mono {resourceId : String} {peer : DocSelection → L}
    {buffers buffers' : Buffers yrs} {message : LiveEditMessage}
    (hmessage : Faithful lawful resourceId peer buffers message)
    (hcontent : content lawful buffers ≤ content lawful buffers')
    (hcompared : buffers.compared ⊆ buffers'.compared) :
    Faithful lawful resourceId peer buffers' message := by
  cases message with
  | stateVectorExchange noteId json =>
      obtain ⟨hnote, updates, ours, hdescribes, hours⟩ := hmessage
      exact ⟨hnote, updates, ours, hdescribes, fun selection hselection =>
        (hours selection hselection).trans (hcontent selection)⟩
  | updateExchange noteId json | updateExchangeResponse noteId json =>
      obtain ⟨hnote, updates, ours, hdescribes, hcovers⟩ := hmessage
      exact ⟨hnote, updates, ours, hdescribes, fun selection hselection =>
        (hcovers selection hselection).mono lawful hcontent hcompared⟩
  | _ => exact hmessage

def Taken (buffers : Buffers yrs) : LiveEditMessage → Prop
  | .documentUpdate _ _ updates docType => lawful.meaning updates ≤
      content lawful buffers (DocSelection.ofDocType docType)
  | _ => True

def Sourced (peer : DocSelection → L) (sender : Buffers yrs)
    (arriving : Option (DocSelection → Bytes)) : Prop :=
  ∀ updates, arriving = some updates → ∀ selection ∈ DocSelection.exchanged,
    ∃ brought doc, lawful.meaning (updates selection) = (brought : L) ∧
      (selection, doc) ∈ sender.compared ∧
        lawful.state doc ≤ peer selection ⊔ brought

section Handlers

variable {resourceId : String} {peer : DocSelection → L} {sender : Buffers yrs}

theorem isCurrentNote_succeeds : (isCurrentNote resourceId : NoteTask yrs Bool).Succeeds :=
  .atomically fun _ => ⟨_, rfl⟩

variable {task : Answers yrs} {json : JsonText} {updates : DocSelection → Bytes}
  {vectors : DocSelection → yrs.Doc}

theorem forCurrentNote_succeeds (htask : task.Succeeds) :
    (forCurrentNote resourceId task).Succeeds := by
  refine .bind isCurrentNote_succeeds fun isCurrent => ?_
  cases isCurrent with
  | true => exact htask
  | false => exact .ok

theorem orNothing_succeeds (task : Answers yrs) : (orNothing task).Succeeds := by
  refine .bind (.attempt task) fun outcome => ?_
  cases outcome with
  | ok messages => exact .ok
  | error error => exact .ok

theorem change_succeeds (update : Buffers yrs → Buffers yrs) :
    (NoteTask.change update).Succeeds :=
  .atomically fun _ => ⟨_, rfl⟩

theorem applyUpdate_succeeds (update : Bytes) (docType : String) :
    (NoteTask.applyUpdate update docType : NoteTask yrs PUnit).Succeeds := by
  unfold NoteTask.applyUpdate
  split
  · exact .ok
  · exact .bind (.attempt _) fun _ => .ok

theorem receive_succeeds (message : LiveEditMessage) :
    (receive connectionId message : Answers yrs).Succeeds := by
  cases message with
  | documentCheck noteId =>
      refine .bind isCurrentNote_succeeds fun isMatch => ?_
      cases isMatch with
      | true => exact orNothing_succeeds _
      | false => exact .ok
  | notSameDocument => exact .bind (change_succeeds _) fun _ => .ok
  | stateVectorExchange => exact forCurrentNote_succeeds (orNothing_succeeds _)
  | updateExchange => exact forCurrentNote_succeeds (orNothing_succeeds _)
  | updateExchangeResponse =>
      exact forCurrentNote_succeeds
        (.bind (.attempt _) fun _ => .bind (change_succeeds _) fun _ => .ok)
  | documentChange =>
      exact .bind (change_succeeds _) fun _ => .bind (change_succeeds _) fun _ => .ok
  | documentUpdate =>
      exact forCurrentNote_succeeds (.bind (applyUpdate_succeeds _ _) fun _ => .ok)
  | awarenessUpdate => exact .ok

theorem isCurrentNote_follows (hnote : since.noteId = some resourceId) :
    Program.Respects (Advances lawful connectionId arriving)
      (fun isCurrent _ => isCurrent = true) since (isCurrentNote resourceId) := by
  refine .read fun buffers isCurrent hbuffers hisCurrent => ?_
  cases hisCurrent
  simp [hbuffers.noteId, hnote]

theorem forCurrentNote_follows (hnote : since.noteId = some resourceId)
    {good : List LiveEditMessage → Buffers yrs → Prop}
    (htask : ∀ since, Program.Respects (Advances lawful connectionId arriving) good since task) :
    Program.Respects (Advances lawful connectionId arriving) good since
      (forCurrentNote resourceId task) := by
  refine .bind (isCurrentNote_follows lawful hnote) fun isCurrent buffers _ hisCurrent => ?_
  rw [hisCurrent]
  exact htask buffers

theorem orNothing_follows {good : List LiveEditMessage → Buffers yrs → Prop}
    (hnothing : ∀ buffers, good [] buffers)
    (htask : Program.Respects (Advances lawful connectionId arriving) good since task) :
    Program.Respects (Advances lawful connectionId arriving) good since
      (orNothing task) := by
  refine .bind htask.attempt fun outcome buffers _ houtcome => ?_
  cases outcome with
  | ok messages => exact .pure (houtcome messages rfl)
  | error error => exact .pure (hnothing buffers)

theorem addActive_follows (harrived : Arrived lawful arriving since) :
    Program.Respects (Advances lawful connectionId arriving) (fun _ _ => True) since
      (NoteTask.change (Buffers.addActive connectionId)) := by
  refine .write fun buffers buffers' hbuffers hchange => ?_
  cases hchange
  refine ⟨by simp, by simp, by simp, fun _ => .inr ?_⟩
  exact harrived.mono lawful (by simpa using hbuffers.content)

def Answered (resourceId : String) (sender : Buffers yrs) (message : LiveEditMessage)
    (answers : List LiveEditMessage) (buffers : Buffers yrs) : Prop :=
  Taken lawful buffers message ∧ ∀ answer ∈ answers,
    Faithful lawful resourceId (content lawful sender) buffers answer

section

variable (hnote : since.noteId = some resourceId)

include hnote

theorem handleDocumentCheck_follows :
    Program.Respects (Advances lawful connectionId arriving)
      (Answered lawful resourceId sender (.documentCheck resourceId)) since
      (handleDocumentCheck resourceId) := by
  refine .bind (isCurrentNote_follows lawful hnote) fun isCurrent buffers _ hisCurrent => ?_
  rw [hisCurrent]
  refine orNothing_follows lawful (fun _ => ⟨trivial, by simp⟩) ?_
  refine .bind (getStateVectors_follows lawful)
    fun json later _ ⟨updates, ours, hdescribes, hours⟩ => ?_
  exact .pure ⟨trivial, by simpa [Faithful] using ⟨updates, ours, hdescribes, hours⟩⟩

theorem handleDocumentUpdateRequest_follows (hjson : Describes json updates vectors)
    (hvectors : ∀ selection ∈ DocSelection.exchanged,
      lawful.state (vectors selection) ≤ content lawful sender selection) :
    Program.Respects (Advances lawful connectionId arriving)
      (Answered lawful resourceId sender (.stateVectorExchange resourceId json)) since
      (handleDocumentUpdateRequest resourceId json) := by
  refine forCurrentNote_follows lawful hnote fun since => ?_
  refine orNothing_follows lawful (fun _ => ⟨trivial, by simp⟩) ?_
  refine .bind (generateUpdatesForPeer_follows lawful hjson hvectors)
    fun answer buffers _ ⟨updates, ours, hdescribes, hcovers⟩ => ?_
  exact .pure ⟨trivial, by simpa [Faithful] using ⟨updates, ours, hdescribes, hcovers⟩⟩

theorem handleDocumentProcessUpdate_follows (hjson : Describes json updates vectors)
    (hvectors : ∀ selection ∈ DocSelection.exchanged,
      lawful.state (vectors selection) ≤ content lawful sender selection) :
    Program.Respects (Advances lawful connectionId (some updates))
      (Answered lawful resourceId sender (.updateExchange resourceId json)) since
      (handleDocumentProcessUpdate resourceId connectionId json) := by
  refine forCurrentNote_follows lawful hnote fun since => ?_
  refine orNothing_follows lawful (fun _ => ⟨trivial, by simp⟩) ?_
  refine .bind (applyUpdatesAndGenerateDiff_follows lawful hjson hvectors)
    fun answer buffers _ ⟨hin, answered, ours, hdescribes, hcovers⟩ => ?_
  refine .bind (addActive_follows lawful ⟨updates, rfl, hin⟩).reached
    fun _ later _ ⟨hlater, _⟩ => ?_
  refine .pure ⟨trivial, ?_⟩
  have hfaithful : Faithful lawful resourceId (content lawful sender) buffers
      (.updateExchangeResponse resourceId answer) :=
    ⟨rfl, answered, ours, hdescribes, hcovers⟩
  simpa using hfaithful.mono lawful hlater.content hlater.compared

theorem handleDocumentProcessUpdateResponse_follows (hjson : Describes json updates vectors)
    (hmeaning : ∀ selection ∈ DocSelection.exchanged,
      ∃ brought : L, lawful.meaning (updates selection) = brought) :
    Program.Respects (Advances lawful connectionId (some updates))
      (Answered lawful resourceId sender (.updateExchangeResponse resourceId json)) since
      (handleDocumentProcessUpdateResponse resourceId connectionId json) := by
  refine forCurrentNote_follows lawful hnote fun since => ?_
  -- The outcome is not looked at; it is a success for the laws of the library.
  refine .bind ((applyPeerUpdates_follows lawful hjson).attempt_ok
    (applyPeerUpdates_succeeds lawful hjson hmeaning))
      fun outcome buffers _ ⟨_, _, hin⟩ => ?_
  refine .bind (addActive_follows lawful ⟨updates, rfl, hin⟩) fun _ _ _ _ => ?_
  exact .pure ⟨trivial, by simp⟩

theorem handleEditingEvent_follows (clientId : Nat) (updates : Bytes) (docType : String) :
    Program.Respects (Advances lawful connectionId arriving)
      (Answered lawful resourceId sender
        (.documentUpdate resourceId clientId updates docType)) since
      (handleEditingEvent resourceId updates docType) := by
  refine forCurrentNote_follows lawful hnote fun since => ?_
  refine .bind (applyUpdate_follows lawful updates docType) fun _ buffers _ hin => ?_
  exact .pure ⟨hin, by simp⟩

end

variable (connectionId) in
theorem receive_follows {message : LiveEditMessage}
    (hmessage : Faithful lawful resourceId peer sender message) :
    ∃ arriving, Sourced lawful peer sender arriving ∧
      ∀ since, since.noteId = some resourceId →
        Program.Respects (Advances lawful connectionId arriving)
          (Answered lawful resourceId sender message) since
          (receive connectionId message) := by
  have hsilent : Sourced lawful peer sender none := fun _ hsome => by cases hsome
  cases message with
  | documentCheck noteId =>
      obtain rfl : noteId = resourceId := hmessage
      exact ⟨none, hsilent, fun since hnote => handleDocumentCheck_follows lawful hnote⟩
  | stateVectorExchange noteId json =>
      obtain ⟨rfl, updates, vectors, hdescribes, hvectors⟩ := hmessage
      exact ⟨none, hsilent, fun since hnote =>
        handleDocumentUpdateRequest_follows lawful hnote hdescribes hvectors⟩
  | updateExchange noteId json =>
      obtain ⟨rfl, updates, vectors, hdescribes, hcovers⟩ := hmessage
      refine ⟨some updates, fun found hfound selection hselection => ?_,
        fun since hnote => handleDocumentProcessUpdate_follows lawful hnote hdescribes
          fun selection hselection => (hcovers selection hselection).ours⟩
      cases hfound
      exact (hcovers selection hselection).updates
  | updateExchangeResponse noteId json =>
      obtain ⟨rfl, updates, vectors, hdescribes, hcovers⟩ := hmessage
      refine ⟨some updates, fun found hfound selection hselection => ?_,
        fun since hnote => handleDocumentProcessUpdateResponse_follows lawful hnote
          hdescribes fun selection hselection => ?_⟩
      · cases hfound
        exact (hcovers selection hselection).updates
      · obtain ⟨brought, _, hmeaning, _⟩ := (hcovers selection hselection).updates
        exact ⟨brought, hmeaning⟩
  | documentUpdate noteId clientId updates docType =>
      obtain rfl : noteId = resourceId := hmessage
      exact ⟨none, hsilent, fun since hnote =>
        handleEditingEvent_follows lawful hnote clientId updates docType⟩
  | notSameDocument | documentChange | awarenessUpdate => exact hmessage.elim

end Handlers

end Osvauld.Livnote
