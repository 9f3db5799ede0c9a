import Osvauld.TypescriptPort.OsvauldService
import Osvauld.TypescriptPort.PeerSync
import Osvauld.TypescriptPort.Yjs

namespace Osvauld.TypescriptPort

open Osvauld.Core Data

/-! Two peers that open the same document to work on it together. -/

def OsvauldService.openDocumentForCollaboration (yjs : Yjs) (crypto : OsvauldCrypto)
    (clientId : Nat) (now : Date) (documentId : String) : ServiceProgram yjs.Doc := do
  let _ ← requireAuth
  let loaded ← getDocument crypto now documentId
  return yjs.insert clientId yjs.new 0 loaded.2

namespace SyncState

variable {yrs : Yrs} {L : Type*} [SemilatticeSup L] [OrderBot L] (lawful : LawfulYrs yrs L)

theorem state_le_applyPeerUpdate (side other : Side) (update : Bytes) (state : SyncState yrs) :
    lawful.state (state.ydoc side) ≤
      lawful.state ((state.applyPeerUpdate other update).ydoc side) := by
  unfold applyPeerUpdate
  cases happly : yrs.applyUpdate (state.ydoc other) update with
  | error message => exact le_rfl
  | ok doc =>
      obtain ⟨brought, -, hstate⟩ := lawful.state_applyUpdate _ _ _ happly
      by_cases hside : side = other
      · subst hside
        simp only [setDoc, Function.update_self, hstate]
        exact le_sup_left
      · simp only [setDoc, Function.update_of_ne hside, le_refl]

theorem ydoc_handleSyncRequest (side : Side) (stateVector : Bytes) (state : SyncState yrs) :
    (state.handleSyncRequest side stateVector).ydoc = state.ydoc := by
  unfold handleSyncRequest
  split
  · rfl
  · rfl

theorem state_le_handleMessage (side other : Side) (message : P2PMessage)
    (state : SyncState yrs) :
    lawful.state (state.ydoc side) ≤
      lawful.state ((state.handleMessage other message).ydoc side) := by
  unfold handleMessage
  cases Base64.decode message.payload with
  | error error => exact le_rfl
  | ok payload =>
      cases message.type with
      | syncRequest =>
          dsimp only
          rw [ydoc_handleSyncRequest]
      | syncResponse =>
          dsimp only
          unfold handleSyncResponse
          split
          · exact le_rfl
          · exact state_le_applyPeerUpdate lawful side other payload state
      | update => exact state_le_applyPeerUpdate lawful side other payload state
      | _ => exact le_rfl

theorem ydoc_broadcastUpdate (side : Side) (update : Bytes) (times : Nat)
    (state : SyncState yrs) :
    ((broadcastUpdate side update)^[times] state).ydoc = state.ydoc := by
  induction times generalizing state with
  | zero => rfl
  | succ times ih =>
      rw [Function.iterate_succ_apply, ih, broadcastUpdate]
      split
      · rfl
      · rfl

theorem state_le_step (event : SyncEvent) (side : Side) (state : SyncState yrs) :
    lawful.state (state.ydoc side) ≤ lawful.state ((step event state).ydoc side) := by
  cases event with
  | addPeer other => exact le_rfl
  | startSync other => exact le_rfl
  | deliver index =>
      simp only [step, deliver]
      split
      · exact le_rfl
      · next other message _ =>
          generalize state.listeners other = times
          have hgrows : ∀ (times : Nat) (before : SyncState yrs), lawful.state (before.ydoc side) ≤
              lawful.state (((handleMessage other message)^[times] before).ydoc side) := by
            intro times
            induction times with
            | zero => exact fun _ => le_rfl
            | succ times ih =>
                intro before
                rw [Function.iterate_succ_apply]
                exact (state_le_handleMessage lawful side other message before).trans (ih _)
          exact hgrows times { state with inFlight := state.inFlight.eraseIdx index }
  | requestUpdates index =>
      simp only [step, requestUpdates]
      split
      · exact le_rfl
      · exact le_rfl
  | edit other update =>
      simp only [step, edit]
      cases happly : yrs.applyUpdate (state.ydoc other) update with
      | error message => exact le_rfl
      | ok doc =>
          dsimp only
          rw [ydoc_broadcastUpdate]
          have hgrows := state_le_applyPeerUpdate lawful side other update state
          rwa [applyPeerUpdate, happly] at hgrows

theorem state_le_run (events : List SyncEvent) (side : Side) (state : SyncState yrs) :
    lawful.state (state.ydoc side) ≤ lawful.state ((run step state events).ydoc side) := by
  induction events using List.reverseRecOn with
  | nil => exact le_rfl
  | append_singleton earlier event ih =>
      rw [run_concat]
      exact ih.trans (state_le_step lawful event side _)

def MessageWithin (bound : L) (message : P2PMessage) : Prop :=
  if message.type = .syncRequest then
    ∃ doc, message.payload = Base64.encode (yrs.stateVector doc)
  else
    ∀ bytes, Base64.decode message.payload = .ok bytes → lawful.meaning bytes ≤ bound

structure Within (bound : L) (state : SyncState yrs) : Prop where
  docs : ∀ side, lawful.state (state.ydoc side) ≤ bound
  messages : ∀ entry ∈ state.inFlight, MessageWithin lawful bound entry.2

variable {lawful} {bound : L} {state : SyncState yrs}

theorem Within.request (hwithin : Within lawful bound state) (side : Side) (doc : yrs.Doc) :
    Within lawful bound (state.send side .syncRequest (yrs.stateVector doc)) where
  docs := hwithin.docs
  messages := by
    intro entry hentry
    rcases List.mem_append.mp hentry with hold | hnew
    · exact hwithin.messages entry hold
    · obtain rfl := List.mem_singleton.mp hnew
      exact (if_pos rfl).mpr ⟨doc, rfl⟩

theorem Within.response (hwithin : Within lawful bound state) (side : Side) {updates : Bytes}
    (hupdates : lawful.meaning updates ≤ bound) :
    Within lawful bound (state.send side .syncResponse updates) where
  docs := hwithin.docs
  messages := by
    intro entry hentry
    rcases List.mem_append.mp hentry with hold | hnew
    · exact hwithin.messages entry hold
    · obtain rfl := List.mem_singleton.mp hnew
      refine (if_neg fun htype => by cases htype).mpr fun bytes hbytes => ?_
      rw [Base64.decode_encode] at hbytes
      cases hbytes
      exact hupdates

theorem Within.applyPeerUpdate (hwithin : Within lawful bound state) (side : Side)
    {update : Bytes} (hupdate : lawful.meaning update ≤ bound) :
    Within lawful bound (state.applyPeerUpdate side update) := by
  unfold SyncState.applyPeerUpdate
  cases happly : yrs.applyUpdate (state.ydoc side) update with
  | error message => exact hwithin
  | ok doc =>
      obtain ⟨brought, hmeaning, hstate⟩ := lawful.state_applyUpdate _ _ _ happly
      rw [hmeaning, WithBot.coe_le_coe] at hupdate
      refine ⟨fun other => ?_, hwithin.messages⟩
      by_cases hside : other = side
      · subst hside
        simp only [setDoc, Function.update_self, hstate]
        exact sup_le (hwithin.docs other) hupdate
      · simp only [setDoc, Function.update_of_ne hside]
        exact hwithin.docs other

end SyncState

namespace SyncState

variable {yrs : Yrs} {L : Type*} [SemilatticeSup L] [OrderBot L] {lawful : ExactYrs yrs L}
  {bound : L} {state : SyncState yrs}

theorem Within.handleMessage (hwithin : Within lawful.toLawfulYrs bound state) (side : Side)
    {message : P2PMessage} (hmessage : MessageWithin lawful.toLawfulYrs bound message) :
    Within lawful.toLawfulYrs bound (state.handleMessage side message) := by
  unfold MessageWithin at hmessage
  unfold SyncState.handleMessage
  by_cases hrequest : message.type = .syncRequest
  · rw [if_pos hrequest] at hmessage
    obtain ⟨doc, hpayload⟩ := hmessage
    obtain ⟨updates, brought, hdiff, hmeaning, hle, -⟩ :=
      lawful.diff_stateVector (state.ydoc side) doc
    rw [hpayload, Base64.decode_encode, hrequest]
    dsimp only
    rw [handleSyncRequest, hdiff]
    have hupdates : lawful.meaning updates ≤ bound := by
      rw [hmeaning, WithBot.coe_le_coe]
      exact hle.trans (hwithin.docs side)
    have hsent := hwithin.response side hupdates
    exact ⟨hsent.docs, hsent.messages⟩
  · rw [if_neg hrequest] at hmessage
    cases hpayload : Base64.decode message.payload with
    | error error => exact hwithin
    | ok payload =>
        have hupdate := hmessage payload hpayload
        cases htype : message.type with
        | syncRequest => exact absurd htype hrequest
        | syncResponse =>
            dsimp only
            unfold handleSyncResponse
            split
            · exact hwithin
            · exact hwithin.applyPeerUpdate side hupdate
        | update => exact hwithin.applyPeerUpdate side hupdate
        | _ => exact hwithin

theorem Within.step (hwithin : Within lawful.toLawfulYrs bound state) {event : SyncEvent}
    (hedit : ∀ side update, event ≠ .edit side update) :
    Within lawful.toLawfulYrs bound (SyncState.step event state) := by
  cases event with
  | addPeer side =>
      have hlistens : Within lawful.toLawfulYrs bound
          { state with
            listeners := Function.update state.listeners side (state.listeners side + 1) } :=
        ⟨hwithin.docs, hwithin.messages⟩
      exact hlistens.request side _
  | startSync side => exact ⟨hwithin.docs, hwithin.messages⟩
  | deliver index =>
      simp only [SyncState.step, deliver]
      cases hentry : state.inFlight[index]? with
      | none => exact hwithin
      | some entry =>
          have hmessage := hwithin.messages entry (List.mem_of_getElem? hentry)
          have htaken : Within lawful.toLawfulYrs bound
              { state with inFlight := state.inFlight.eraseIdx index } :=
            ⟨hwithin.docs, fun other hother =>
              hwithin.messages other (List.mem_of_mem_eraseIdx hother)⟩
          dsimp only
          generalize state.listeners entry.1 = times
          induction times with
          | zero => exact htaken
          | succ times ih =>
              rw [Function.iterate_succ_apply']
              exact ih.handleMessage entry.1 hmessage
  | requestUpdates index =>
      simp only [SyncState.step, requestUpdates]
      cases state.answering[index]? with
      | none => exact hwithin
      | some side =>
          have hgoes : Within lawful.toLawfulYrs bound
              { state with answering := state.answering.eraseIdx index } :=
            ⟨hwithin.docs, hwithin.messages⟩
          exact hgoes.request side _
  | edit side update => exact absurd rfl (hedit side update)

def Unedited (events : List SyncEvent) : Prop :=
  ∀ event ∈ events, ∀ side update, event ≠ .edit side update

theorem within_run {events : List SyncEvent} (hunedited : Unedited events)
    (hwithin : Within lawful.toLawfulYrs bound state) :
    Within lawful.toLawfulYrs bound (run SyncState.step state events) := by
  induction events using List.reverseRecOn with
  | nil => exact hwithin
  | append_singleton earlier event ih =>
      rw [run_concat]
      have hearlier := ih fun other hother => hunedited other (List.mem_append_left _ hother)
      exact hearlier.step (hunedited event (by simp))

variable {updates : Bytes}

theorem deliver_request_one {side : Side} {vector : Bytes} {rest : List (Side × P2PMessage)}
    (hflight : state.inFlight = (side, ⟨.syncRequest, Base64.encode vector⟩) :: rest)
    (hlisten : state.listeners side = 1) (hdiff : yrs.diff (state.ydoc side) vector = .ok updates) :
    (state.deliver 0).ydoc = state.ydoc ∧ (state.deliver 0).listeners = state.listeners ∧
      (state.deliver 0).inFlight =
        rest ++ [(side.partner, ⟨.syncResponse, Base64.encode updates⟩)] := by
  simp [deliver, hflight, hlisten, SyncState.handleMessage, Base64.decode_encode,
    handleSyncRequest, hdiff, send]

theorem handleSyncResponse_joins (lawful : ExactYrs yrs L) {brought : L}
    (hmeaning : lawful.meaning updates = brought) (side : Side) (state : SyncState yrs) :
    ∃ doc, state.handleSyncResponse side updates = state.setDoc side doc ∧
      lawful.state doc = lawful.state (state.ydoc side) ⊔ brought := by
  unfold handleSyncResponse
  by_cases hempty : updates.isEmpty
  · rw [if_pos hempty]
    rw [List.isEmpty_iff.mp hempty, lawful.meaning_nil] at hmeaning
    obtain rfl : ⊥ = brought := WithBot.coe_injective hmeaning
    refine ⟨state.ydoc side, ?_, (sup_bot_eq _).symm⟩
    rw [setDoc, Function.update_eq_self]
  · rw [if_neg hempty]
    obtain ⟨doc, happly⟩ := lawful.applies (state.ydoc side) updates brought
      (by simpa using hempty) hmeaning
    obtain ⟨content, hcontent, hstate⟩ := lawful.state_applyUpdate _ _ _ happly
    obtain rfl : brought = content := WithBot.coe_injective (hmeaning.symm.trans hcontent)
    exact ⟨doc, by rw [SyncState.applyPeerUpdate, happly], hstate⟩

theorem deliver_response_one (lawful : ExactYrs yrs L) {side : Side} {brought : L}
    {rest : List (Side × P2PMessage)}
    (hflight : state.inFlight = (side, ⟨.syncResponse, Base64.encode updates⟩) :: rest)
    (hlisten : state.listeners side = 1) (hmeaning : lawful.meaning updates = brought) :
    ∃ doc, (state.deliver 0).ydoc = Function.update state.ydoc side doc ∧
      lawful.state doc = lawful.state (state.ydoc side) ⊔ brought ∧
      (state.deliver 0).listeners = state.listeners ∧ (state.deliver 0).inFlight = rest := by
  obtain ⟨doc, hresponse, hstate⟩ :=
    handleSyncResponse_joins lawful hmeaning side { state with inFlight := rest }
  have hdeliver : state.deliver 0 = handleSyncResponse side updates { state with inFlight := rest } := by
    simp [deliver, hflight, hlisten, SyncState.handleMessage, Base64.decode_encode]
  rw [hdeliver, hresponse]
  exact ⟨doc, rfl, hstate, rfl, rfl⟩

def syncOnce : List SyncEvent :=
  [.addPeer .left, .addPeer .right, .deliver 0, .deliver 0, .deliver 0, .deliver 0]

theorem syncOnce_unedited : Unedited syncOnce := by
  intro event hevent side update hedit
  rw [hedit] at hevent
  simp [syncOnce] at hevent

theorem run_syncOnce (state : SyncState yrs) :
    run SyncState.step state syncOnce =
      ((((addPeer .right (addPeer .left state)).deliver 0).deliver 0).deliver 0).deliver 0 := by
  simp only [run, syncOnce, List.foldl_cons, List.foldl_nil, SyncState.step]

theorem syncOnce_joins (lawful : ExactYrs yrs L) (docs : Side → yrs.Doc) (side : Side) :
    lawful.state ((run SyncState.step (init docs) syncOnce).ydoc side) =
      lawful.state (docs .left) ⊔ lawful.state (docs .right) := by
  obtain ⟨toLeft, broughtLeft, hdiffRight, hmeaningLeft, hleLeft, hgeLeft⟩ :=
    lawful.diff_stateVector (docs .right) (docs .left)
  obtain ⟨toRight, broughtRight, hdiffLeft, hmeaningRight, hleRight, hgeRight⟩ :=
    lawful.diff_stateVector (docs .left) (docs .right)
  obtain ⟨added, hrun, hdocs, hlistens, hflight⟩ : ∃ added : SyncState yrs,
      run SyncState.step (init docs) syncOnce =
          (((added.deliver 0).deliver 0).deliver 0).deliver 0 ∧
        added.ydoc = docs ∧ (∀ side, added.listeners side = 1) ∧
        added.inFlight =
          [(.right, ⟨.syncRequest, Base64.encode (yrs.stateVector (docs .left))⟩),
            (.left, ⟨.syncRequest, Base64.encode (yrs.stateVector (docs .right))⟩)] := by
    refine ⟨addPeer .right (addPeer .left (init docs)), run_syncOnce _, rfl, fun side => ?_, rfl⟩
    cases side <;> rfl
  obtain ⟨hdocs₁, hlistens₁, hflight₁⟩ := deliver_request_one hflight (hlistens .right)
    (by rw [hdocs]; exact hdiffRight)
  rw [← hlistens₁] at hlistens
  obtain ⟨hdocs₂, hlistens₂, hflight₂⟩ := deliver_request_one hflight₁ (hlistens .left)
    (by rw [hdocs₁, hdocs]; exact hdiffLeft)
  rw [← hlistens₂] at hlistens
  obtain ⟨left, hdocs₃, hleft, hlistens₃, hflight₃⟩ :=
    deliver_response_one lawful hflight₂ (hlistens .left) hmeaningLeft
  rw [← hlistens₃] at hlistens
  obtain ⟨right, hdocs₄, hright, -, -⟩ :=
    deliver_response_one lawful hflight₃ (hlistens .right) hmeaningRight
  dsimp only [Side.partner] at hdocs₃ hdocs₄ hleft hright
  rw [hdocs₂, hdocs₁, hdocs] at hleft
  rw [hdocs₃, hdocs₂, hdocs₁, hdocs] at hright
  rw [hrun, hdocs₄, hdocs₃, hdocs₂, hdocs₁, hdocs]
  cases side with
  | left =>
      rw [Function.update_of_ne (by decide), Function.update_self, hleft]
      exact le_antisymm (sup_le_sup_left hleLeft _) (sup_le le_sup_left hgeLeft)
  | right =>
      rw [Function.update_self, hright, Function.update_of_ne (by decide)]
      exact le_antisymm (sup_le le_sup_right (hleRight.trans le_sup_left)) (sup_le hgeRight le_sup_left)

end SyncState

open SyncState

section Opening

variable {yjs : Yjs} {L Item : Type*} [SemilatticeSup L] [OrderBot L] [DecidableEq Item]
  (lawful : LawfulYjs yjs L Item)

def InSync (state : SyncState yjs.toYrs) : Prop :=
  lawful.state (state.ydoc .left) = lawful.state (state.ydoc .right)

/-- What is to be seen of the text that the peers have opened is one copy of the stored
content, without what has been deleted since. -/
def StoredOnce (content : String) (docs : Side → yjs.Doc) (merged : L) : Prop :=
  ∃ side, (lawful.shared.visible (lawful.state (docs side))).map Prod.snd = content.toList ∧
    (lawful.shared.visible merged).filter
        (fun entry => entry.1 ∈ lawful.shared.known (lawful.state (docs .left)) ∪
          lawful.shared.known (lawful.state (docs .right))) =
      (lawful.shared.visible (lawful.state (docs side))).filter fun entry =>
        entry.1 ∉ lawful.shared.deleted merged

/-- Whenever two peers are in sync, both have the stored content, once; and as long as
nobody edits, nothing else. -/
def OpensOnce (content : String) (docs : Side → yjs.Doc) : Prop :=
  ∀ events, InSync lawful (run SyncState.step (init docs) events) → ∀ side,
    StoredOnce lawful content docs
        (lawful.state ((run SyncState.step (init docs) events).ydoc side)) ∧
      (Unedited events → yjs.text ((run SyncState.step (init docs) events).ydoc side) = content)

variable {docs : Side → yjs.Doc} {events : List SyncEvent}

theorem text_eq_iff (doc : yjs.Doc) (content : String) : yjs.text doc = content ↔
    (lawful.shared.visible (lawful.state doc)).map Prod.snd = content.toList := by
  rw [lawful.text_eq, SharedText.text, ← String.toList_inj, String.toList_ofList]

theorem state_le_of_inSync (hsync : InSync lawful (run SyncState.step (init docs) events))
    (opened side : Side) : lawful.state (docs opened) ≤
      lawful.state ((run SyncState.step (init docs) events).ydoc side) := by
  have hgrows := state_le_run lawful.toLawfulYrs events opened (init docs)
  refine hgrows.trans_eq ?_
  cases opened with
  | left =>
      cases side with
      | left => rfl
      | right => exact hsync
  | right =>
      cases side with
      | left => exact hsync.symm
      | right => rfl

theorem state_le_of_unedited (hunedited : Unedited events) (side : Side) :
    lawful.state ((run SyncState.step (init docs) events).ydoc side) ≤
      lawful.state (docs .left) ⊔ lawful.state (docs .right) := by
  have hstart : Within lawful.toLawfulYrs (lawful.state (docs .left) ⊔ lawful.state (docs .right))
      (init docs) := by
    refine ⟨fun opened => ?_, fun entry hentry => by cases hentry⟩
    cases opened with
    | left => exact le_sup_left
    | right => exact le_sup_right
  exact (within_run hunedited hstart).docs side

def openedDocs (yjs : Yjs) (clients : Side → Nat) (content : String) (side : Side) : yjs.Doc :=
  yjs.insert (clients side) yjs.new 0 content

variable (clients : Side → Nat) (content : String)

theorem visible_openedDocs (side : Side) :
    (lawful.shared.visible (lawful.state (openedDocs yjs clients content side))).map Prod.snd =
      content.toList :=
  lawful.visible_insert (clients side) content

theorem deleted_openedDocs (side : Side) :
    lawful.shared.deleted (lawful.state (openedDocs yjs clients content side)) = ∅ :=
  lawful.deleted_insert (clients side) content

theorem length_visible_openedDocs (side : Side) :
    (lawful.shared.visible (lawful.state (openedDocs yjs clients content side))).length =
      content.toList.length := by
  rw [← visible_openedDocs lawful clients content side, List.length_map]

theorem known_openedDocs_of_empty (hcontent : content = "") (side : Side) :
    lawful.shared.known (lawful.state (openedDocs yjs clients content side)) = ∅ := by
  have hlength := length_visible_openedDocs lawful clients content side
  rw [lawful.shared.length_visible (deleted_openedDocs lawful clients content side), hcontent] at hlength
  exact Finset.card_eq_zero.mp (hcontent ▸ hlength)

theorem disjoint_openedDocs (hclients : clients .left ≠ clients .right) : Disjoint
    (lawful.shared.known (lawful.state (openedDocs yjs clients content .left)))
    (lawful.shared.known (lawful.state (openedDocs yjs clients content .right))) := by
  refine Finset.disjoint_left.mpr fun item hleft hright => hclients ?_
  exact (lawful.known_insert _ _ item hleft).symm.trans (lawful.known_insert _ _ item hright)

theorem known_openedDocs_eq (hsame : content = "" ∨ clients .left = clients .right) :
    lawful.shared.known (lawful.state (openedDocs yjs clients content .right)) =
      lawful.shared.known (lawful.state (openedDocs yjs clients content .left)) := by
  rcases hsame with hcontent | hclients
  · rw [known_openedDocs_of_empty lawful clients content hcontent,
      known_openedDocs_of_empty lawful clients content hcontent]
  · rw [openedDocs, openedDocs, hclients]

variable {lawful} {clients} {content}

theorem same_of_opensOnce (honce : OpensOnce lawful content (openedDocs yjs clients content)) :
    content = "" ∨ clients .left = clients .right := by
  by_contra! hother
  obtain ⟨hcontent, hclients⟩ := hother
  have hjoins := syncOnce_joins lawful.toExactYrs (openedDocs yjs clients content)
  obtain ⟨-, htext⟩ := honce syncOnce ((hjoins .left).trans (hjoins .right).symm) .left
  have hvisible := (text_eq_iff lawful _ content).mp (htext syncOnce_unedited)
  rw [hjoins .left] at hvisible
  have hlength := congrArg List.length hvisible
  rw [List.length_map, lawful.shared.length_visible_sup (deleted_openedDocs lawful clients content _)
    (deleted_openedDocs lawful clients content _) (disjoint_openedDocs lawful clients content hclients),
    length_visible_openedDocs, length_visible_openedDocs] at hlength
  have hempty : content.toList.length = 0 := by omega
  rw [List.length_eq_zero_iff, String.toList_eq_nil_iff] at hempty
  exact hcontent hempty

theorem opensOnce_of_same (hsame : content = "" ∨ clients .left = clients .right) :
    OpensOnce lawful content (openedDocs yjs clients content) := by
  intro events hsync side
  have hknown := known_openedDocs_eq lawful clients content hsame
  have hle := state_le_of_inSync lawful hsync .left side
  refine ⟨⟨.left, visible_openedDocs lawful clients content .left, ?_⟩, fun hunedited => ?_⟩
  · rw [hknown, Finset.union_self]
    exact lawful.shared.visible_of_le _ _ hle
  · have hge := @state_le_of_unedited _ _ _ _ _ _ lawful (openedDocs yjs clients content) _ hunedited
      side
    have hdeleted := lawful.shared.deleted_mono hge
    have hmore := lawful.shared.known_mono hge
    rw [lawful.shared.deleted_sup, deleted_openedDocs, deleted_openedDocs, Finset.union_empty,
      Finset.subset_empty] at hdeleted
    rw [lawful.shared.known_sup, hknown, Finset.union_self] at hmore
    rw [text_eq_iff lawful, lawful.shared.visible_eq_of_known hle hmore hdeleted]
    exact visible_openedDocs lawful clients content .left

theorem opensOnce_openedDocs_iff :
    OpensOnce lawful content (openedDocs yjs clients content) ↔
      content = "" ∨ clients .left = clients .right :=
  ⟨same_of_opensOnce, opensOnce_of_same⟩

structure OpenedBy (yjs : Yjs) (crypto : OsvauldCrypto) (service : Side → OsvauldService)
    (clients : Side → Nat) (now : Side → Date) (documentId content : String)
    (docs : Side → yjs.Doc) : Prop where
  loaded : ∀ side, ((OsvauldService.getDocument crypto (now side) documentId).run
    (service side)).1.map Prod.snd = .ok content
  opened : ∀ side, ((OsvauldService.openDocumentForCollaboration yjs crypto (clients side)
    (now side) documentId).run (service side)).1 = .ok (docs side)

theorem openDocumentForCollaboration_run {crypto : OsvauldCrypto} {service : OsvauldService}
    {now : Date} {documentId : String}
    (hloaded : ((OsvauldService.getDocument crypto now documentId).run service).1.map Prod.snd =
      .ok content) (yjs : Yjs) (clientId : Nat) :
    ((OsvauldService.openDocumentForCollaboration yjs crypto clientId now documentId).run
      service).1 = .ok (yjs.insert clientId yjs.new 0 content) := by
  rw [OsvauldService.openDocumentForCollaboration, Program.run_bind]
  cases hauth : service.authenticated with
  | none =>
      rw [OsvauldService.getDocument, Program.run_bind, OsvauldService.run_requireAuth_none hauth,
        Program.andThen_error] at hloaded
      cases hloaded
  | some auth =>
      rw [OsvauldService.run_requireAuth hauth, Program.andThen_ok, Program.run_bind]
      rcases hrun : (OsvauldService.getDocument crypto now documentId).run service with
        ⟨error | ⟨document, loaded⟩, after⟩
      · rw [hrun] at hloaded
        cases hloaded
      · rw [hrun] at hloaded
        cases hloaded
        rfl

theorem OpenedBy.eq_openedDocs {crypto : OsvauldCrypto} {service : Side → OsvauldService}
    {now : Side → Date} {documentId : String} {docs : Side → yjs.Doc}
    (hopened : OpenedBy yjs crypto service clients now documentId content docs) :
    docs = openedDocs yjs clients content := by
  funext side
  have hrun := openDocumentForCollaboration_run (hopened.loaded side) yjs (clients side)
  exact Except.ok.inj ((hopened.opened side).symm.trans hrun)

/-- Every copy of a stored document that two peers open can be brought in sync; and the
content is there once exactly when it is empty, or when the two documents have come to the
same client identifier. -/
theorem opens_once_iff (lawful : LawfulYjs yjs L Item) {crypto : OsvauldCrypto}
    {service : Side → OsvauldService} {now : Side → Date} {documentId : String}
    {docs : Side → yjs.Doc}
    (hopened : OpenedBy yjs crypto service clients now documentId content docs) :
    (∃ events, Unedited events ∧ InSync lawful (run SyncState.step (init docs) events)) ∧
      (OpensOnce lawful content docs ↔ content = "" ∨ clients .left = clients .right) := by
  obtain rfl := hopened.eq_openedDocs
  have hjoins := syncOnce_joins lawful.toExactYrs (openedDocs yjs clients content)
  exact ⟨⟨syncOnce, syncOnce_unedited, (hjoins .left).trans (hjoins .right).symm⟩,
    opensOnce_openedDocs_iff⟩

def twoClients : Side → Nat
  | .left => 1
  | .right => 2

def annWithNote : OsvauldService :=
  ((OsvauldService.createDocument plainCrypto noteDraws 1 "notes" "text" none []).run
    annLoggedIn).2

theorem annWithNote_loaded :
    ((OsvauldService.getDocument plainCrypto 2 "d1").run annWithNote).1.map Prod.snd =
      .ok "text" := by
  decide +kernel

theorem annWithNote_opened :
    OpenedBy Yjs.written plainCrypto (fun _ => annWithNote) twoClients (fun _ => 2) "d1" "text"
      (openedDocs Yjs.written twoClients "text") where
  loaded _ := annWithNote_loaded
  opened side := openDocumentForCollaboration_run annWithNote_loaded Yjs.written (twoClients side)

theorem opens_once_iff_annWithNote :
    OpenedBy Yjs.written plainCrypto (fun _ => annWithNote) twoClients (fun _ => 2) "d1" "text"
        (openedDocs Yjs.written twoClients "text") ∧
      ¬ OpensOnce Yjs.lawfulWritten "text" (openedDocs Yjs.written twoClients "text") := by
  refine ⟨annWithNote_opened, fun honce => ?_⟩
  have hsame := (opens_once_iff Yjs.lawfulWritten annWithNote_opened).2.mp honce
  exact absurd hsame (by decide)

/-- The text of a note is there twice. -/
theorem not_opens_once :
    ¬ ∀ service clients now documentId content docs,
      OpenedBy Yjs.written plainCrypto service clients now documentId content docs →
        OpensOnce Yjs.lawfulWritten content docs := by
  intro hall
  have honce := hall _ _ _ _ _ _ annWithNote_opened
  exact absurd (same_of_opensOnce honce) (by decide)

end Opening

end Osvauld.TypescriptPort
