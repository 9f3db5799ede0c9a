import Osvauld.Libremot.ChatCoordinator

namespace Osvauld.Libremot

open Osvauld.Core Data

/-- `yjs` is the same CRDT, and a message that is set is added. -/
structure LawfulYjs (yjs : Yjs) (L : Type*) [SemilatticeSup L] [OrderBot L]
    extends ExactYrs yjs.toYrs L where
  setMessage_grows : ∀ doc messageId message,
    state doc ≤ state (yjs.setMessage doc messageId message).1

variable {yjs : Yjs} {L : Type*} [SemilatticeSup L] [OrderBot L]
variable (lawful : LawfulYjs yjs L)

/-! What a coordinator's documents hold. -/

theorem applyUpdate_held (doc : yjs.Doc) (update : Bytes) :
    (∃ doc', yjs.applyUpdate doc update = .ok doc' ∧
      lawful.state doc' = lawful.state doc ⊔ held lawful.toExactYrs update) ∨
    ∃ message, yjs.applyUpdate doc update = .error message ∧
      held lawful.toExactYrs update = ⊥ := by
  cases happly : yjs.applyUpdate doc update with
  | ok doc' =>
      obtain ⟨brought, hmeaning, hstate⟩ :=
        lawful.state_applyUpdate doc update doc' happly
      exact .inl ⟨doc', rfl, by simpa [held, hmeaning] using hstate⟩
  | error message =>
      refine .inr ⟨message, rfl, ?_⟩
      by_cases hupdate : update = []
      · rw [hupdate, held_nil]
      · cases hmeaning : lawful.meaning update with
        | bot => simp [held, hmeaning]
        | coe brought =>
            obtain ⟨doc', happly'⟩ := lawful.applies doc update brought hupdate hmeaning
            cases happly.symm.trans happly'

namespace ChatCoordinator

def contents (coordinator : ChatCoordinator yjs) (which : ChatDoc) : L :=
  lawful.state (coordinator.doc which)

/-- What loading takes of a content: no images, when the chat cannot be applied. -/
def loadable (chatContent : ChatContent) : ChatDoc → L
  | .main => held lawful.toExactYrs chatContent.chat
  | .image => ((lawful.meaning chatContent.chat).map fun _ =>
      held lawful.toExactYrs chatContent.imageState).unbotD ⊥

@[simp] theorem contents_new (userInfo : UserInfo) (which : ChatDoc) :
    contents lawful (new yjs userInfo) which = ⊥ := by
  cases which <;> exact lawful.state_new

theorem contents_loadChat (chatContent : ChatContent) (coordinator : ChatCoordinator yjs)
    (which : ChatDoc) :
    contents lawful (coordinator.loadChat chatContent).2 which =
      contents lawful coordinator which ⊔ loadable lawful chatContent which := by
  unfold loadChat
  cases hchat : yjs.applyUpdateV2 coordinator.chatDoc chatContent.chat with
  | error message =>
      have hmeaning : lawful.meaning chatContent.chat = ⊥ := by
        cases hmeaning : lawful.meaning chatContent.chat with
        | bot => rfl
        | coe brought =>
            obtain ⟨_, happly, _⟩ :=
              lawful.applyUpdateV2_meaning hmeaning coordinator.chatDoc
            cases hchat.symm.trans happly
      cases which <;> simp [loadable, held, hmeaning]
  | ok chatDoc =>
      obtain ⟨brought, hmeaning, hstate⟩ := lawful.applyUpdateV2_ok hchat
      have himages : loadable lawful chatContent .image =
          held lawful.toExactYrs chatContent.imageState := by
        simp [loadable, hmeaning]
      have hmain : lawful.state chatDoc = lawful.state coordinator.chatDoc ⊔
          loadable lawful chatContent .main := by
        simp [loadable, held, hmeaning, hstate]
      dsimp only
      rcases applyUpdateV2_held lawful.toExactYrs coordinator.imageDoc
        chatContent.imageState with ⟨imageDoc, happly, hstate⟩ | ⟨message, happly, hheld⟩
      · rw [happly]
        cases which with
        | main => exact hmain
        | image => exact hstate.trans (by rw [himages]; rfl)
      · rw [happly]
        cases which with
        | main => exact hmain
        | image =>
            rw [himages, hheld, sup_of_le_left bot_le]
            rfl

def arriving (update : Bytes) (sender : Nat) (docType : String)
    (coordinator : ChatCoordinator yjs) (which : ChatDoc) : L :=
  if sender ≠ coordinator.userInfo.id ∧ which = remoteDoc docType then
    held lawful.toExactYrs update
  else ⊥

theorem contents_applyRemoteUpdate (update : Bytes) (sender : Nat) (docType : String)
    (coordinator : ChatCoordinator yjs) :
    (∃ updated, coordinator.applyRemoteUpdate update sender docType = .ok updated ∧
      ∀ which, contents lawful updated which = contents lawful coordinator which ⊔
        arriving lawful update sender docType coordinator which) ∨
      ∃ message, coordinator.applyRemoteUpdate update sender docType = .error message ∧
        ∀ which, arriving lawful update sender docType coordinator which = ⊥ := by
  unfold applyRemoteUpdate arriving
  by_cases hown : sender = coordinator.userInfo.id
  · exact .inl ⟨coordinator, by simp [hown], fun which => by simp [hown]⟩
  · simp only [hown, if_false, ne_eq, not_false_eq_true, true_and]
    cases remoteDoc docType with
    | main =>
        rcases applyUpdate_held lawful coordinator.chatDoc update with
          ⟨chatDoc, happly, hstate⟩ | ⟨message, happly, hheld⟩
        · refine .inl ⟨{ coordinator with chatDoc }, by rw [happly]; rfl, ?_⟩
          rintro (_ | _)
          · exact hstate
          · simp [contents, doc]
        · exact .inr ⟨message, by rw [happly]; rfl, by simp [hheld]⟩
    | image =>
        rcases applyUpdate_held lawful coordinator.imageDoc update with
          ⟨imageDoc, happly, hstate⟩ | ⟨message, happly, hheld⟩
        · refine .inl ⟨{ coordinator with imageDoc }, by rw [happly]; rfl, ?_⟩
          rintro (_ | _)
          · simp [contents, doc]
          · exact hstate
        · exact .inr ⟨message, by rw [happly]; rfl, by simp [hheld]⟩

theorem contents_le_applyGiven {update : Option Bytes} {sender : Nat} {docType : String}
    {coordinator updated : ChatCoordinator yjs}
    (happly : coordinator.applyGiven update sender docType = .ok updated)
    (which : ChatDoc) :
    contents lawful coordinator which ≤ contents lawful updated which := by
  cases update with
  | none =>
      cases happly
      exact le_rfl
  | some update =>
      rcases contents_applyRemoteUpdate lawful update sender docType coordinator with
        ⟨updated', happly', hcontents⟩ | ⟨message, happly', _⟩
      · obtain rfl : updated = updated' := Except.ok.inj (happly.symm.trans happly')
        rw [hcontents]
        exact le_sup_left
      · cases happly.symm.trans happly'

theorem contents_setMessage (messageId : String) (message : ChatMessage)
    (coordinator : ChatCoordinator yjs) (which : ChatDoc) :
    contents lawful coordinator which ≤
      contents lawful (coordinator.setMessage messageId message).1 which := by
  cases which with
  | main => exact lawful.setMessage_grows _ _ _
  | image => exact le_rfl

theorem contents_markMessageAsRead (messageId : String)
    (coordinator : ChatCoordinator yjs) (which : ChatDoc) :
    contents lawful coordinator which ≤
      contents lawful (coordinator.markMessageAsRead messageId).1 which := by
  unfold markMessageAsRead
  split
  · exact le_rfl
  · dsimp only
    split
    · exact le_rfl
    · exact contents_setMessage lawful messageId _ coordinator which

theorem contents_markAllMessagesAsRead (coordinator : ChatCoordinator yjs)
    (which : ChatDoc) :
    contents lawful coordinator which ≤
      contents lawful coordinator.markAllMessagesAsRead.1 which := by
  refine List.foldlRecOn coordinator.getMessages _
    (motive := fun marked : ChatCoordinator yjs × List Bytes =>
      contents lawful coordinator which ≤ contents lawful marked.1 which) le_rfl fun marked hmarked message _ => ?_
  dsimp only
  split
  · exact hmarked
  · exact hmarked.trans (contents_markMessageAsRead lawful message.id marked.1 which)

def HasUnread (coordinator : ChatCoordinator yjs) : Prop :=
  ∃ message ∈ coordinator.getMessages,
    message.authorId ≠ coordinator.userInfo.userId ∧
      ∃ stored, (yjs.messages coordinator.chatDoc).lookup message.id = some stored ∧
        coordinator.userInfo.userId ∉ stored.readBy.getD []

theorem markAllMessagesAsRead_of_read {coordinator : ChatCoordinator yjs}
    (hread : ¬coordinator.HasUnread) : coordinator.markAllMessagesAsRead = (coordinator, []) := by
  refine List.foldlRecOn coordinator.getMessages _
    (motive := fun marked : ChatCoordinator yjs × List Bytes =>
      marked = (coordinator, [])) rfl fun marked hmarked message hmessage => ?_
  subst hmarked
  dsimp only
  split
  · rfl
  · next hother =>
      have hsame : coordinator.markMessageAsRead message.id = (coordinator, []) := by
        unfold markMessageAsRead
        cases hstored : (yjs.messages coordinator.chatDoc).lookup message.id with
        | none => rfl
        | some stored =>
            have hmarked : coordinator.userInfo.userId ∈ stored.readBy.getD [] := by
              by_contra hunread
              exact hread ⟨message, hmessage, hother, stored, hstored, hunread⟩
            simp [hmarked]
      rw [hsame]
      rfl

end ChatCoordinator

end Osvauld.Libremot
