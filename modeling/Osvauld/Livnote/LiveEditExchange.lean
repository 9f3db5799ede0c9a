import Mathlib.Order.BoundedOrder.Lattice
import Osvauld.Livnote.LiveEdit

namespace Osvauld.Livnote

open Osvauld.Core Data

/-! A whole exchange between two ends, while nothing else happens to them. -/

section Exchange

variable {yrs : Yrs}

def messagesOf (outcome : Except String (List LiveEditMessage)) :
    List LiveEditMessage :=
  match outcome with
  | .ok messages => messages
  | .error _ => []

def answer (connectionId : String) (messages : List LiveEditMessage)
    (buffers : Buffers yrs) : List LiveEditMessage × Buffers yrs :=
  messages.foldl (fun (answers, buffers) message =>
    let outcome := (receive connectionId message).run buffers
    (answers ++ messagesOf outcome.1, outcome.2)) ([], buffers)

variable {buffers buffers' : Buffers yrs}

theorem answer_singleton {connectionId : String} {message : LiveEditMessage}
    {answers : List LiveEditMessage}
    (hrun : (receive connectionId message).run buffers = (.ok answers, buffers')) :
    answer connectionId [message] buffers = (answers, buffers') := by
  simp [answer, hrun, messagesOf]

/-- From the moment the initiator has the connection for live edits: each end
knows the other by the id of the connection. -/
def exchange (initiatorId responderId : String) (initiator responder : Buffers yrs) :
    Buffers yrs × Buffers yrs :=
  let check := handleLiveEditConnected.run initiator
  let vectors := answer initiatorId (messagesOf check.1) responder
  let updates := answer responderId vectors.1 check.2
  let response := answer initiatorId updates.1 vectors.2
  let last := answer responderId response.1 updates.2
  (last.2, response.2)

theorem run_parsePeer {json : JsonText} {fields : List (String × Value)}
    (hparse : json.parseObject = .ok fields) (what : String) (buffers : Buffers yrs) :
    (NoteTask.parsePeer what json).run buffers = (.ok fields, buffers) := by
  simp [NoteTask.parsePeer, Program.run_mapError, hparse, Except.mapError]

theorem run_both {β : Type*} (good : DocSelection → Bytes → β → Prop)
    (peer : DocSelection → yrs.Doc) {first second : NoteTask yrs (List (String × Value))}
    {buffers'' : Buffers yrs}
    (hfirst : ∃ updates brought, first.run buffers =
        (.ok [(DocSelection.main.stateKey, DecryptedResource.documentEntry updates
          (yrs.stateVector (peer .main)))], buffers') ∧ good .main updates brought)
    (hsecond : ∃ updates brought, second.run buffers' =
        (.ok [(DocSelection.image.stateKey, DecryptedResource.documentEntry updates
          (yrs.stateVector (peer .image)))], buffers'') ∧ good .image updates brought) :
    ∃ json, ∃ updates : DocSelection → Bytes, ∃ brought : DocSelection → β,
      (do
        let mainDoc ← first
        let imageDoc ← second
        return JsonText.encoded (.object (mainDoc ++ imageDoc)) :
          NoteTask yrs JsonText).run buffers = (.ok json, buffers'') ∧
      Describes json updates peer ∧
      ∀ selection ∈ DocSelection.exchanged,
        good selection (updates selection) (brought selection) := by
  obtain ⟨mainUpdates, mainBrought, hmain, hmainGood⟩ := hfirst
  obtain ⟨imageUpdates, imageBrought, himage, himageGood⟩ := hsecond
  let updates := DocSelection.exchangedAs mainUpdates imageUpdates
  let brought := DocSelection.exchangedAs mainBrought imageBrought
  have hdescribes := describes_entries updates peer []
  rw [List.append_nil] at hdescribes
  refine ⟨_, updates, brought, ?_, hdescribes, fun selection hselection => ?_⟩
  · simp only [Program.run_bind, hmain, Program.andThen_ok, himage, Program.run_pure]
    rfl
  · rcases List.mem_pair.mp hselection with rfl | rfl
    · exact hmainGood
    · exact himageGood

theorem run_forCurrentNote {resourceId : String} (hnote : buffers.noteId = some resourceId)
    (task : Answers yrs) : (forCurrentNote resourceId task).run buffers = task.run buffers := by
  simp [forCurrentNote, isCurrentNote, hnote]

theorem run_orNothing {task : Answers yrs} {messages : List LiveEditMessage}
    (htask : task.run buffers = (.ok messages, buffers')) :
    (orNothing task).run buffers = (.ok messages, buffers') := by
  simp [orNothing, htask]

theorem run_handleLiveEditConnected {resourceId : String} (hnote : buffers.noteId = some resourceId) :
    handleLiveEditConnected.run buffers = (.ok [.documentCheck resourceId], buffers) := by
  simp [handleLiveEditConnected, hnote]

end Exchange

section Content

variable {yrs : Yrs} {L : Type*} [SemilatticeSup L] [OrderBot L]
variable (lawful : ExactYrs yrs L)

structure Gains (updates : DocSelection → L) (buffers buffers' : Buffers yrs) :
    Prop where
  noteId : buffers'.noteId = buffers.noteId
  activeConnections : buffers'.activeConnections = buffers.activeConnections
  content : content lawful buffers' = content lawful buffers ⊔ updates

def only (selection : DocSelection) (updates : L) : DocSelection → L :=
  fun other => if other = selection then updates else ⊥

structure Fills (update : Bytes) (brought : L) (doc peer : L) : Prop where
  meaning : lawful.meaning update = brought
  held : brought ≤ doc
  lacked : doc ≤ peer ⊔ brought

variable {lawful} in
theorem Fills.sup_eq {update : Bytes} {brought doc peer : L}
    (hfills : Fills lawful update brought doc peer) : peer ⊔ brought = peer ⊔ doc :=
  le_antisymm (sup_le_sup_left hfills.held peer) (sup_le le_sup_left hfills.lacked)

namespace Gains

variable {lawful} {buffers buffers' buffers'' : Buffers yrs}

variable (lawful) in
theorem compare (selection : DocSelection) (buffers : Buffers yrs) :
    Gains lawful ⊥ buffers (buffers.compare selection) := by
  refine ⟨rfl, rfl, ?_⟩
  funext other
  simp [Livnote.content]

theorem trans {first second : DocSelection → L} (hfirst : Gains lawful first buffers buffers')
    (hsecond : Gains lawful second buffers' buffers'') :
    Gains lawful (first ⊔ second) buffers buffers'' :=
  ⟨hsecond.noteId.trans hfirst.noteId,
    hsecond.activeConnections.trans hfirst.activeConnections,
    by rw [hsecond.content, hfirst.content, sup_assoc]⟩

end Gains

theorem run_applyPeerDoc (selection : DocSelection) {updates : Bytes} {brought : L}
    (hmeaning : lawful.meaning updates = brought) (stateVector : Bytes)
    (buffers : Buffers yrs) :
    ∃ buffers', (NoteTask.applyPeerDoc selection
        (DecryptedResource.documentEntry updates stateVector)).run buffers =
          (.ok .unit, buffers') ∧
      Gains lawful (only selection brought) buffers buffers' := by
  unfold NoteTask.applyPeerDoc
  simp only [DecryptedResource.entryBytes_updates]
  split
  · next hempty =>
      rw [List.isEmpty_iff.mp hempty, lawful.meaning_nil, WithBot.coe_inj] at hmeaning
      refine ⟨buffers, rfl, rfl, rfl, ?_⟩
      funext other
      simp [only, ← hmeaning]
  · obtain ⟨doc, happly, hstate⟩ :=
      lawful.applyUpdateV2_meaning hmeaning (buffers.doc selection)
    refine ⟨buffers.setDoc selection doc, ?_, by simp, by simp, ?_⟩
    · rw [Program.run_mapError, NoteTask.applyTo, Program.run_write, happly]
      rfl
    · funext other
      by_cases hother : other = selection
      · simp [content, only, Buffers.doc_setDoc, hother, hstate]
      · simp [content, only, Buffers.doc_setDoc, hother]

theorem run_describeFor (selection : DocSelection) (peer : yrs.Doc)
    (buffers : Buffers yrs) :
    ∃ updates brought, (NoteTask.describeFor selection (yrs.stateVector peer)).run
        buffers = (.ok [(selection.stateKey, DecryptedResource.documentEntry updates
          (yrs.stateVector (buffers.doc selection)))], buffers.compare selection) ∧
      Fills lawful updates brought (content lawful buffers selection)
        (lawful.state peer) := by
  obtain ⟨updates, brought, hdiff, hmeaning, hheld, hlacked⟩ :=
    lawful.getDiffUpdateV2_stateVector (buffers.doc selection) peer
  refine ⟨updates, brought, ?_, hmeaning, hheld, hlacked⟩
  simp [NoteTask.describeFor, NoteTask.getDiff, NoteTask.getStateVector,
    Program.run_mapError, hdiff, Except.mapError]

include lawful in
theorem run_getStateVectors (buffers : Buffers yrs) :
    ∃ stateVectors, NoteTask.getStateVectors.run buffers =
        (.ok stateVectors, buffers) ∧
      Describes stateVectors (fun _ => []) buffers.doc := by
  have hentry : ∀ selection, (NoteTask.getDocStateVector selection).run buffers =
      (.ok [entryOf (fun _ => []) buffers.doc selection], buffers) := by
    intro selection
    simp [NoteTask.getDocStateVector, NoteTask.getStateVector,
      lawful.stateVector_ne_nil, entryOf]
  refine ⟨_, ?_, describes_entries (fun _ => []) buffers.doc
    [entryOf (fun _ => []) buffers.doc .comment]⟩
  simp only [NoteTask.getStateVectors, Program.run_bind, hentry, Program.andThen_ok,
    Program.run_pure]

def exchangedOnly (brought : DocSelection → L) (selection : DocSelection) : L :=
  if selection ∈ DocSelection.exchanged then brought selection else ⊥

theorem only_sup_only (brought : DocSelection → L) :
    only .main (brought .main) ⊔ only .image (brought .image) =
      exchangedOnly brought := by
  funext selection
  cases selection <;> simp [only, exchangedOnly, DocSelection.exchanged]

theorem run_processDocStateVectors {fields : List (String × Value)}
    {selection : DocSelection} {updates : Bytes} {peer : yrs.Doc}
    (hentry : Value.get (.object fields) selection.stateKey =
      some (DecryptedResource.documentEntry updates (yrs.stateVector peer)))
    (buffers : Buffers yrs) :
    ∃ updates brought, (NoteTask.processDocStateVectors fields selection).run
        buffers = (.ok [(selection.stateKey, DecryptedResource.documentEntry updates
          (yrs.stateVector (buffers.doc selection)))], buffers.compare selection) ∧
      Fills lawful updates brought (content lawful buffers selection)
        (lawful.state peer) := by
  have hanswer : (NoteTask.processDocStateVectors fields selection : NoteTask yrs _) =
      NoteTask.describeFor selection (yrs.stateVector peer) := by
    simp [NoteTask.processDocStateVectors, hentry, lawful.stateVector_ne_nil]
  rw [hanswer]
  exact run_describeFor lawful selection peer buffers

variable {updates : DocSelection → Bytes} {peer : DocSelection → yrs.Doc}
  {brought : DocSelection → L}

theorem run_generateUpdatesForPeer {peerStateVectors : JsonText}
    (hpeer : Describes peerStateVectors updates peer) (buffers : Buffers yrs) :
    ∃ json, ∃ updates, ∃ brought : DocSelection → L, ∃ buffers',
      (NoteTask.generateUpdatesForPeer peerStateVectors).run buffers =
        (.ok json, buffers') ∧
      Describes json updates buffers.doc ∧
      (∀ selection ∈ DocSelection.exchanged,
        Fills lawful (updates selection) (brought selection)
          (content lawful buffers selection) (lawful.state (peer selection))) ∧
      Gains lawful ⊥ buffers buffers' := by
  obtain ⟨fields, hparse, hentry⟩ := hpeer
  have hmain := run_processDocStateVectors lawful
    (hentry .main (by simp [DocSelection.exchanged])) buffers
  have himage := run_processDocStateVectors lawful
    (hentry .image (by simp [DocSelection.exchanged])) (buffers.compare .main)
  obtain ⟨json, updates, brought, hrun, hdescribes, hfills⟩ :=
    run_both (fun selection updates brought => Fills lawful updates brought
        (content lawful buffers selection) (lawful.state (peer selection)))
      buffers.doc hmain himage
  refine ⟨json, updates, brought, (buffers.compare .main).compare .image, ?_,
    hdescribes, hfills, ?_⟩
  · rw [NoteTask.generateUpdatesForPeer, Program.run_bind, run_parsePeer hparse,
      Program.andThen_ok]
    exact hrun
  · simpa using (Gains.compare lawful .main buffers).trans (.compare lawful .image _)

theorem run_processDocUpdatesAndDiff {fields : List (String × Value)}
    {selection : DocSelection} {updates : Bytes} {brought : L} {peer : yrs.Doc}
    (hentry : Value.get (.object fields) selection.stateKey =
      some (DecryptedResource.documentEntry updates (yrs.stateVector peer)))
    (hmeaning : lawful.meaning updates = brought) (buffers : Buffers yrs) :
    ∃ merged, Gains lawful (only selection brought) buffers merged ∧
      ∃ answered filled, (NoteTask.processDocUpdatesAndDiff fields selection).run
          buffers = (.ok [(selection.stateKey, DecryptedResource.documentEntry answered
            (yrs.stateVector (merged.doc selection)))], merged.compare selection) ∧
        Fills lawful answered filled (content lawful merged selection)
          (lawful.state peer) := by
  obtain ⟨merged, hmerged, hgains⟩ :=
    run_applyPeerDoc lawful selection hmeaning (yrs.stateVector peer) buffers
  obtain ⟨answered, filled, hanswer, hfills⟩ := run_describeFor lawful selection peer merged
  refine ⟨merged, hgains, answered, filled, ?_, hfills⟩
  simp [NoteTask.processDocUpdatesAndDiff, hentry, hmerged, lawful.stateVector_ne_nil,
    hanswer]

section

variable {peerUpdates : JsonText} (hpeer : Describes peerUpdates updates peer)
  (hmeaning : ∀ selection ∈ DocSelection.exchanged,
      lawful.meaning (updates selection) = brought selection) (buffers : Buffers yrs)

include hpeer hmeaning

theorem run_applyUpdatesAndGenerateDiff :
    ∃ json, ∃ answered, ∃ filled : DocSelection → L,
    ∃ ours : DocSelection → yrs.Doc, ∃ buffers',
      (NoteTask.applyUpdatesAndGenerateDiff peerUpdates).run buffers =
        (.ok json, buffers') ∧
      Describes json answered ours ∧
      (∀ selection ∈ DocSelection.exchanged,
        Fills lawful (answered selection) (filled selection)
          (content lawful buffers' selection) (lawful.state (peer selection))) ∧
      Gains lawful (exchangedOnly brought) buffers buffers' := by
  obtain ⟨fields, hparse, hentry⟩ := hpeer
  have hexchanged : DocSelection.main ∈ DocSelection.exchanged ∧
      DocSelection.image ∈ DocSelection.exchanged := by
    simp [DocSelection.exchanged]
  obtain ⟨first, hfirst, hmain⟩ := run_processDocUpdatesAndDiff lawful
    (hentry .main hexchanged.1) (hmeaning .main hexchanged.1) buffers
  obtain ⟨second, hsecond, himage⟩ := run_processDocUpdatesAndDiff lawful
    (hentry .image hexchanged.2) (hmeaning .image hexchanged.2) (first.compare .main)
  have hgains : Gains lawful (exchangedOnly brought) buffers (second.compare .image) := by
    rw [← only_sup_only]
    simpa using ((hfirst.trans (.compare lawful .main first)).trans hsecond).trans
      (.compare lawful .image second)
  have hkept : content lawful (second.compare .image) .main =
      content lawful first .main := by
    have hgained := (((Gains.compare lawful .main first).trans hsecond).trans
      (.compare lawful .image second)).content
    simpa [only] using congrFun hgained .main
  let ours := DocSelection.exchangedAs (first.doc .main) (second.doc .image)
  obtain ⟨json, answered, filled, hrun, hdescribes, hfills⟩ :=
    run_both (fun selection updates brought => Fills lawful updates brought
        (content lawful (second.compare .image) selection)
        (lawful.state (peer selection))) ours (hkept ▸ hmain)
      (by simpa [content, ours, DocSelection.exchangedAs] using himage)
  refine ⟨json, answered, filled, ours, second.compare .image, ?_, hdescribes, hfills,
    hgains⟩
  rw [NoteTask.applyUpdatesAndGenerateDiff, Program.run_bind, run_parsePeer hparse,
    Program.andThen_ok]
  exact hrun

theorem run_applyPeerUpdates :
    ∃ buffers', (NoteTask.applyPeerUpdates peerUpdates).run buffers =
        (.ok .unit, buffers') ∧
      Gains lawful (exchangedOnly brought) buffers buffers' := by
  obtain ⟨fields, hparse, hentry⟩ := hpeer
  have happly : ∀ selection ∈ DocSelection.exchanged, ∀ buffers, ∃ buffers',
      (NoteTask.applyPeerEntry fields selection).run buffers = (.ok .unit, buffers') ∧
        Gains lawful (only selection (brought selection)) buffers buffers' := by
    intro selection hselection buffers
    obtain ⟨buffers', hrun, hgains⟩ :=
      run_applyPeerDoc lawful selection (hmeaning selection hselection)
        (yrs.stateVector (peer selection)) buffers
    refine ⟨buffers', ?_, hgains⟩
    simp only [NoteTask.applyPeerEntry, hentry selection hselection]
    exact hrun
  obtain ⟨first, hfirst, hmain⟩ := happly .main (by simp [DocSelection.exchanged]) buffers
  obtain ⟨second, hsecond, himage⟩ := happly .image (by simp [DocSelection.exchanged]) first
  refine ⟨second, ?_, ?_⟩
  · rw [NoteTask.applyPeerUpdates, Program.run_bind, run_parsePeer hparse,
      Program.andThen_ok, Program.run_bind, hfirst, Program.andThen_ok, hsecond]
  · rw [← only_sup_only]
    exact hmain.trans himage

end

variable {resourceId : String} (connectionId : String) {buffers : Buffers yrs}

include lawful in
theorem run_documentCheck (hnote : buffers.noteId = some resourceId) :
    ∃ stateVectors, (receive connectionId (.documentCheck resourceId)).run buffers =
        (.ok [.stateVectorExchange resourceId stateVectors], buffers) ∧
      Describes stateVectors (fun _ => []) buffers.doc := by
  obtain ⟨stateVectors, hrun, hdescribes⟩ := run_getStateVectors lawful buffers
  refine ⟨stateVectors, ?_, hdescribes⟩
  have htold : (orNothing do
      let stateVectors ← NoteTask.getStateVectors
      return [.stateVectorExchange resourceId stateVectors]).run buffers =
        (.ok [.stateVectorExchange resourceId stateVectors], buffers) :=
    run_orNothing (by simp [hrun])
  simp [receive, eventOf, handleEvent, handleDocumentCheck, isCurrentNote, hnote, htold]

theorem run_stateVectorExchange (hnote : buffers.noteId = some resourceId) {stateVectors : JsonText}
    (hpeer : Describes stateVectors updates peer) :
    ∃ json, ∃ updates, ∃ brought : DocSelection → L, ∃ buffers',
      (receive connectionId (.stateVectorExchange resourceId stateVectors)).run buffers =
        (.ok [.updateExchange resourceId json], buffers') ∧
      Describes json updates buffers.doc ∧
      (∀ selection ∈ DocSelection.exchanged,
        Fills lawful (updates selection) (brought selection)
          (content lawful buffers selection) (lawful.state (peer selection))) ∧
      Gains lawful ⊥ buffers buffers' := by
  obtain ⟨json, updates, brought, buffers', hrun, hanswer⟩ :=
    run_generateUpdatesForPeer lawful hpeer buffers
  refine ⟨json, updates, brought, buffers', ?_, hanswer⟩
  exact (run_forCurrentNote hnote _).trans (run_orNothing (by simp [hrun]))

theorem run_updateExchange (hnote : buffers.noteId = some resourceId) {remoteUpdates : JsonText}
    (hpeer : Describes remoteUpdates updates peer)
    (hmeaning : ∀ selection ∈ DocSelection.exchanged,
      lawful.meaning (updates selection) = brought selection) :
    ∃ json, ∃ answered, ∃ filled : DocSelection → L,
    ∃ ours : DocSelection → yrs.Doc, ∃ merged,
      (receive connectionId (.updateExchange resourceId remoteUpdates)).run buffers =
        (.ok [.updateExchangeResponse resourceId json],
          merged.addActive connectionId) ∧
      Describes json answered ours ∧
      (∀ selection ∈ DocSelection.exchanged,
        Fills lawful (answered selection) (filled selection)
          (content lawful merged selection) (lawful.state (peer selection))) ∧
      Gains lawful (exchangedOnly brought) buffers merged := by
  obtain ⟨json, answered, filled, ours, merged, hrun, hanswer⟩ :=
    run_applyUpdatesAndGenerateDiff lawful hpeer hmeaning buffers
  refine ⟨json, answered, filled, ours, merged, ?_, hanswer⟩
  refine (run_forCurrentNote hnote _).trans (run_orNothing ?_)
  simp [hrun, NoteTask.change, Program.run_write]

theorem run_updateExchangeResponse (hnote : buffers.noteId = some resourceId)
    {updatesText : JsonText} (hpeer : Describes updatesText updates peer)
    (hmeaning : ∀ selection ∈ DocSelection.exchanged,
      lawful.meaning (updates selection) = brought selection) :
    ∃ merged, (receive connectionId
        (.updateExchangeResponse resourceId updatesText)).run buffers =
          (.ok [], merged.addActive connectionId) ∧
      Gains lawful (exchangedOnly brought) buffers merged := by
  obtain ⟨merged, hrun, hgains⟩ := run_applyPeerUpdates lawful hpeer hmeaning buffers
  refine ⟨merged, (run_forCurrentNote hnote _).trans ?_, hgains⟩
  simp [hrun, NoteTask.change, Program.run_write]

/-- Both ends list each other, and the documents that were exchanged hold the
updates of both; the comment documents hold what they held. -/
structure Exchanged (initiatorId responderId : String)
    (initiator responder : Buffers yrs) (after : Buffers yrs × Buffers yrs) : Prop where
  initiatorLists : responderId ∈ after.1.activeConnections
  responderLists : initiatorId ∈ after.2.activeConnections
  initiatorContent : content lawful after.1 =
    content lawful initiator ⊔ exchangedOnly (content lawful responder)
  responderContent : content lawful after.2 =
    content lawful responder ⊔ exchangedOnly (content lawful initiator)

theorem exchange_exchanged {initiator responder : Buffers yrs}
    (hinitiator : initiator.noteId = some resourceId)
    (hresponder : responder.noteId = some resourceId)
    (initiatorId responderId : String) :
    Exchanged lawful initiatorId responderId initiator responder
      (exchange initiatorId responderId initiator responder) := by
  obtain ⟨stateVectors, hcheck, hvectors⟩ :=
    run_documentCheck lawful initiatorId hresponder
  obtain ⟨json, updates, brought, compared, hrequest, hupdates, hfills, hnothing⟩ :=
    run_stateVectorExchange lawful responderId hinitiator hvectors
  obtain ⟨answer, answered, filled, ours, merged, hprocess, hanswer, hfilled, hmerged⟩ :=
    run_updateExchange lawful initiatorId hresponder hupdates
      fun selection hselection => (hfills selection hselection).meaning
  obtain ⟨last, hresponse, hlast⟩ := run_updateExchangeResponse lawful
    responderId (hnothing.noteId.trans hinitiator) hanswer
      fun selection hselection => (hfilled selection hselection).meaning
  have hafter : exchange initiatorId responderId initiator responder =
      (last.addActive responderId, merged.addActive initiatorId) := by
    simp only [exchange, run_handleLiveEditConnected hinitiator, messagesOf,
      answer_singleton hcheck, answer_singleton hrequest, answer_singleton hprocess,
      answer_singleton hresponse]
  have hcompared : content lawful compared = content lawful initiator := by
    simpa using hnothing.content
  rw [hafter]
  refine ⟨Buffers.mem_addActive.mpr (.inr rfl), Buffers.mem_addActive.mpr (.inr rfl), ?_, ?_⟩
  · rw [content_addActive, hlast.content, hcompared]
    funext selection
    by_cases hselection : selection ∈ DocSelection.exchanged
    · have hjoin := congrFun hmerged.content selection
      have hours : content lawful responder selection ⊔ brought selection =
          content lawful responder selection ⊔ content lawful initiator selection :=
        (hfills selection hselection).sup_eq
      have htheirs : content lawful initiator selection ⊔ filled selection =
          content lawful initiator selection ⊔ content lawful merged selection :=
        (hfilled selection hselection).sup_eq
      simp only [Pi.sup_apply, exchangedOnly, hselection, if_true] at hjoin ⊢
      rw [htheirs, hjoin, hours, sup_comm (content lawful responder selection),
        ← sup_assoc, sup_idem]
    · simp [exchangedOnly, hselection]
  · rw [content_addActive, hmerged.content]
    funext selection
    by_cases hselection : selection ∈ DocSelection.exchanged
    · have hours : content lawful responder selection ⊔ brought selection =
          content lawful responder selection ⊔ content lawful initiator selection :=
        (hfills selection hselection).sup_eq
      simpa [exchangedOnly, hselection] using hours
    · simp [exchangedOnly, hselection]

/-- After the exchange both ends hold the same updates in all their documents
exactly if they held the same in their comment documents before it. -/
theorem live_edit_exchange_converges_iff {yrs : Yrs} (lawful : ExactYrs yrs L)
    (resourceId initiatorId responderId : String) (initiator responder : Buffers yrs)
    (hinitiator : initiator.noteId = some resourceId)
    (hresponder : responder.noteId = some resourceId) :
    let after := exchange initiatorId responderId initiator responder
    (responderId ∈ after.1.activeConnections ∧
      initiatorId ∈ after.2.activeConnections) ∧
    ((∀ selection, content lawful after.1 selection = content lawful after.2 selection) ↔
      content lawful initiator .comment = content lawful responder .comment) := by
  intro after
  obtain ⟨hlists, hlisted, hfirst, hsecond⟩ :=
    exchange_exchanged lawful hinitiator hresponder initiatorId responderId
  refine ⟨⟨hlists, hlisted⟩, fun hsame => ?_, fun hcomment selection => ?_⟩
  · simpa [after, hfirst, hsecond, exchangedOnly, DocSelection.exchanged] using
      hsame .comment
  · rw [show content lawful after.1 = _ from hfirst,
      show content lawful after.2 = _ from hsecond]
    cases selection with
    | main | image => simp [exchangedOnly, DocSelection.exchanged, sup_comm]
    | comment => simpa [exchangedOnly, DocSelection.exchanged] using hcomment

end Content

/-- A comment that only the responder has stays with the responder. -/
theorem exchange_leaves_comments_apart :
    ¬ ∀ initiator responder : Buffers Yrs.bits,
      initiator.noteId = some "note" → responder.noteId = some "note" →
      let after := exchange "laptop" "phone" initiator responder
      ∀ selection, content Yrs.exactBits after.1 selection =
        content Yrs.exactBits after.2 selection := by
  intro hsame
  have hcomment := hsame (openNote 1 0) (openNote 2 4) rfl rfl .comment
  exact absurd (congrFun hcomment 2) (by decide +kernel)

theorem live_edit_exchange_converges_iff_openNote :
    let after := exchange "laptop" "phone" (openNote 1 4) (openNote 2 4)
    ("phone" ∈ after.1.activeConnections ∧ "laptop" ∈ after.2.activeConnections) ∧
    ((∀ selection, content Yrs.exactBits after.1 selection =
        content Yrs.exactBits after.2 selection) ↔
      content Yrs.exactBits (openNote 1 4) .comment =
        content Yrs.exactBits (openNote 2 4) .comment) :=
  live_edit_exchange_converges_iff Yrs.exactBits "note" "laptop" "phone"
    (openNote 1 4) (openNote 2 4) rfl rfl

end Osvauld.Livnote
