import Osvauld.Libremot.ChatState

namespace Osvauld.Libremot

open Osvauld.Core CryptoUtils Data Network Persistance Services

/-! What the documents of a chat hold: the stored ones, those that opening the
chat reads, and the buffered ones. -/

structure LawfulBase64 (encodings : Encodings) : Prop where
  decode_encode : ∀ bytes,
    encodings.base64Decode (encodings.base64Encode bytes) = .ok bytes
  decode_empty : encodings.base64Decode "" = .ok []

def ChatDoc.stateKey : ChatDoc → String
  | .main => "chat"
  | .image => "image_state"

def ChatDoc.openedKey : ChatDoc → String
  | .main => "main_doc"
  | .image => "image_state"

def storedBytes (encodings : Encodings) (value : Value) (stateKey : String) : Bytes :=
  match value.get stateKey with
  | some (.string text) =>
      match encodings.base64Decode text with
      | .ok bytes => bytes
      | .error _ => []
  | _ => (value.documentBytes stateKey).getD []

variable {yrs : Yrs} {L : Type*} [SemilatticeSup L] [OrderBot L]

section Content

variable (lawful : ExactYrs yrs L)

def held (bytes : Bytes) : L := (lawful.meaning bytes).unbotD ⊥

@[simp] theorem held_nil : held lawful [] = ⊥ := by
  simp [held, lawful.meaning_nil]

@[simp] theorem held_stateAsUpdate (doc : yrs.Doc) :
    held lawful (yrs.stateAsUpdate doc) = lawful.state doc := by
  simp [held, lawful.meaning_stateAsUpdate]

theorem applyUpdateV2_held (doc : yrs.Doc) (update : Bytes) :
    (∃ doc', yrs.applyUpdateV2 doc update = .ok doc' ∧
      lawful.state doc' = lawful.state doc ⊔ held lawful update) ∨
    ∃ message, yrs.applyUpdateV2 doc update = .error message ∧
      held lawful update = ⊥ := by
  cases hmeaning : lawful.meaning update with
  | bot =>
      right
      cases happly : yrs.applyUpdateV2 doc update with
      | ok doc' =>
          obtain ⟨brought, hbrought, _⟩ := lawful.applyUpdateV2_ok happly
          cases hmeaning.symm.trans hbrought
      | error message => exact ⟨message, rfl, by simp [held, hmeaning]⟩
  | coe brought =>
      left
      obtain ⟨doc', happly, hstate⟩ := lawful.applyUpdateV2_meaning hmeaning doc
      exact ⟨doc', happly, by simpa [held, hmeaning] using hstate⟩

@[simp] theorem state_loadDoc (docState : Option Bytes) :
    lawful.state (ChatState.loadDoc yrs docState) =
      held lawful (docState.getD []) := by
  cases docState with
  | none => simp [ChatState.loadDoc, lawful.state_new]
  | some bytes =>
      rcases applyUpdateV2_held lawful yrs.new bytes with
        ⟨doc, happly, hstate⟩ | ⟨message, happly, hheld⟩
      · simp [ChatState.loadDoc, happly, hstate, lawful.state_new]
      · simp [ChatState.loadDoc, happly, hheld, lawful.state_new]

def buffered (chat : ChatState yrs) (chatId : String) (which : ChatDoc) : L :=
  match chat.buffers chatId with
  | some buffers => lawful.state (buffers.doc which)
  | none => ⊥

def dataContent (encodings : Encodings) (data : Option AesText) (which : ChatDoc) : L :=
  match data with
  | some data => held lawful (storedBytes encodings (plainValue data) which.stateKey)
  | none => ⊥

def stored (encodings : Encodings) (repo : RepositoryContext) (chatId : String) :
    ChatDoc → L :=
  dataContent lawful encodings (storedData? repo chatId)

def opened (repo : RepositoryContext) (chatId : String) (which : ChatDoc) : L :=
  match storedData? repo chatId with
  | some data =>
      held lawful (((plainValue data).documentBytes which.openedKey).getD [])
  | none => ⊥

@[simp] theorem buffered_new (chatId : String) (which : ChatDoc) :
    buffered lawful (ChatState.new yrs) chatId which = ⊥ := rfl

end Content

section Buffers

variable (lawful : ExactYrs yrs L) (chat : ChatState yrs)

variable (chatId other : String)

theorem buffered_setBuffers (buffers : ResourceBuffers yrs) (which : ChatDoc) :
    buffered lawful (chat.setBuffers chatId buffers) other which =
      if other = chatId then lawful.state (buffers.doc which)
      else buffered lawful chat other which := by
  by_cases hother : other = chatId <;> simp [buffered, hother]

theorem state_bufferOrNew (which : ChatDoc) :
    lawful.state (((chat.buffers chatId).getD (.new yrs)).doc which) =
      buffered lawful chat chatId which := by
  cases hbuffers : chat.buffers chatId <;>
    simp [buffered, hbuffers, lawful.state_new]

theorem buffered_applyUpdate (updates : Bytes) (docType : String) (which : ChatDoc) :
    buffered lawful (chat.applyUpdate chatId updates docType) other which =
      if other = chatId ∧ which = .ofDocType docType then
        buffered lawful chat other which ⊔ held lawful updates
      else buffered lawful chat other which := by
  unfold ChatState.applyUpdate
  by_cases hempty : updates.isEmpty
  · rw [List.isEmpty_iff.mp hempty]
    simp
  · rw [if_neg hempty]
    dsimp only
    rcases applyUpdateV2_held lawful
      (((chat.buffers chatId).getD (.new yrs)).doc (.ofDocType docType)) updates with
        ⟨doc, happly, hstate⟩ | ⟨message, happly, hheld⟩
    · simp only [happly, buffered_setBuffers, ResourceBuffers.doc_setDoc]
      by_cases hother : other = chatId
      · subst hother
        by_cases hwhich : which = .ofDocType docType
        · simp [hwhich, hstate, state_bufferOrNew]
        · simp [hwhich, state_bufferOrNew]
      · simp [hother]
    · simp only [happly, buffered_setBuffers, hheld, sup_of_le_left bot_le,
        state_bufferOrNew]
      by_cases hother : other = chatId <;> simp [hother]

theorem isSome_buffers_applyUpdate (updates : Bytes) (docType : String) :
    ((chat.applyUpdate chatId updates docType).buffers other).isSome ↔
      (chat.buffers other).isSome ∨ other = chatId ∧ updates ≠ [] := by
  unfold ChatState.applyUpdate
  by_cases hempty : updates.isEmpty
  · simp [List.isEmpty_iff.mp hempty]
  · rw [if_neg hempty]
    dsimp only
    rw [List.isEmpty_iff] at hempty
    split <;> by_cases hother : other = chatId <;> simp [hother, hempty]

theorem buffered_loadChatResource (mainDocState imageState : Option Bytes) (which : ChatDoc) :
    buffered lawful (chat.loadChatResource chatId mainDocState imageState) other which =
      if other = chatId then
        match which with
        | .main => held lawful (mainDocState.getD [])
        | .image => held lawful (imageState.getD [])
      else buffered lawful chat other which := by
  unfold ChatState.loadChatResource
  rw [buffered_setBuffers]
  cases which <;> simp [ResourceBuffers.doc]

theorem held_exportDocumentState {chatId : String} {chatState : Bytes}
    (hexport : chat.exportDocumentState chatId = .ok chatState) :
    held lawful chatState = buffered lawful chat chatId .main := by
  unfold ChatState.exportDocumentState at hexport
  split at hexport
  · next buffers hbuffers =>
      cases hexport
      simp [buffered, hbuffers, ResourceBuffers.doc]
  · cases hexport

end Buffers

end Osvauld.Libremot
