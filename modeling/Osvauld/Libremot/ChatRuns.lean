import Mathlib.Order.BoundedOrder.Lattice
import Osvauld.Data.Run
import Osvauld.Libremot.ChatContent

namespace Osvauld.Libremot

open Osvauld.Core Data Network Persistance Services

/-! Chats are opened, updated and saved one event after the other. A ledger notes
what has been received for each document and not saved since. -/

structure Moment where
  now : Int
  cert : Option String
  currentUser : Option User
  currentDevice : Option Device

abbrev atMoment (env : NetworkEnv) (moment : Moment) : NetworkEnv :=
  { env with
    now := moment.now
    cert := moment.cert
    currentUser := moment.currentUser
    currentDevice := moment.currentDevice }

inductive ChatAction where
  | openChat (chatId : String)
  | liveUpdate (chatId : String) (updates : Bytes) (docType : String)
  | editorUpdate (chatId : String) (updates : Bytes) (docType : String)
  | peerUpdates (chatId : String) (updates : JsonText)
  | save (chatId : String)

structure ChatEvent where
  moment : Moment
  action : ChatAction

namespace ChatAction

variable (env : NetworkEnv)

def run (action : ChatAction) (app : ChatApp env.libraries.yrs) :
    ChatApp env.libraries.yrs :=
  match action with
  | .openChat chatId => Libremot.openChat env chatId app
  | .liveUpdate chatId updates docType =>
      handleEditingEvent env chatId updates docType app
  | .editorUpdate chatId updates docType => chatSyncUpdate chatId updates docType app
  | .peerUpdates chatId updates =>
      { app with chat := (app.chat.applyPeerUpdates chatId updates).2 }
  | .save chatId => saveChatToDatabase env chatId app

def saving : ChatAction → Option String
  | .liveUpdate chatId _ docType => if docType = "chat" then some chatId else none
  | .save chatId => some chatId
  | _ => none

def buffering (action : ChatAction) (app : ChatApp env.libraries.yrs) :
    ChatApp env.libraries.yrs :=
  match action with
  | .openChat chatId => Libremot.openChat env chatId app
  | .liveUpdate chatId updates docType => chatSyncUpdate chatId updates docType app
  | .editorUpdate chatId updates docType => chatSyncUpdate chatId updates docType app
  | .peerUpdates chatId updates =>
      { app with chat := (app.chat.applyPeerUpdates chatId updates).2 }
  | .save _ => app

theorem run_eq (action : ChatAction) (app : ChatApp env.libraries.yrs) :
    action.run env app =
      match action.saving with
      | some chatId => saveChatToDatabase env chatId (action.buffering env app)
      | none => action.buffering env app := by
  cases action with
  | liveUpdate chatId updates docType =>
      by_cases hchat : docType = "chat" <;>
        simp [run, saving, buffering, handleEditingEvent, chatSyncUpdate, hchat]
  | openChat | editorUpdate | peerUpdates | save => rfl

end ChatAction

section Save

variable (env : NetworkEnv) (chatId : String) (app : ChatApp env.libraries.yrs)

def saveSucceeds : Bool :=
  match chatSave env chatId app.chat with
  | some save => (save.run app.repo).1.isOk
  | none => false

inductive SaveResult (repo' : RepositoryContext) : Prop
  | saved (chatState : Bytes) :
      app.chat.exportDocumentState chatId = .ok chatState →
      Saved chatId (savedData env chatState) app.repo repo' → SaveResult repo'
  | failed : SameData app.repo repo' → saveSucceeds env chatId app = false →
      SaveResult repo'

@[simp] theorem saveChatToDatabase_chat :
    (saveChatToDatabase env chatId app).chat = app.chat := by
  unfold saveChatToDatabase
  split <;> rfl

theorem saveChatToDatabase_repo :
    SaveResult env chatId app (saveChatToDatabase env chatId app).repo := by
  unfold saveChatToDatabase
  cases hsave : chatSave env chatId app.chat with
  | none => exact .failed (fun _ => rfl) (by simp [saveSucceeds, hsave])
  | some save =>
      obtain ⟨user, device, chatState, _, _, hexport, rfl⟩ := chatSave_eq_some.mp hsave
      rcases updateResource_run env.toServiceEnv chatId (savedData env chatState)
        user.id device.id app.repo with hsaved | ⟨hsame, hfailed⟩
      · exact .saved chatState hexport hsaved
      · refine .failed hsame ?_
        simp only [saveSucceeds, hsave]
        cases hresult : ((updateResource env.toServiceEnv chatId
          (savedData env chatState) user.id device.id).run app.repo).1 with
        | ok saved => exact absurd hresult (hfailed saved)
        | error error => rfl

end Save

section Content

variable {L : Type*} [SemilatticeSup L] [OrderBot L]
variable {env : NetworkEnv} (lawful : ExactYrs env.libraries.yrs L)

theorem stored_congr {encodings : CryptoUtils.Encodings}
    {repo repo' : RepositoryContext} {chatId : String}
    (hdata : storedData? repo' chatId = storedData? repo chatId) :
    stored lawful encodings repo' chatId = stored lawful encodings repo chatId := by
  simp [stored, hdata]

theorem stored_saved (hbase : LawfulBase64 env.libraries.ucan.encodings)
    {chatId : String} {chatState : Bytes} {chat : ChatState env.libraries.yrs}
    {repo repo' : RepositoryContext}
    (hexport : chat.exportDocumentState chatId = .ok chatState)
    (hsaved : Saved chatId (savedData env chatState) repo repo') (which : ChatDoc) :
    stored lawful env.libraries.ucan.encodings repo' chatId which =
      match which with
      | .main => buffered lawful chat chatId .main
      | .image => ⊥ := by
  obtain ⟨data, hdata, hplain⟩ := Option.map_eq_some_iff.mp hsaved.written
  simp only [stored, dataContent, hdata, hplain]
  cases which with
  | main =>
      have hbytes : storedBytes env.libraries.ucan.encodings
          (textValue (savedData env chatState)) "chat" = chatState := by
        simp [storedBytes, savedData, textValue, Value.get, hbase.decode_encode]
      rw [ChatDoc.stateKey, hbytes, held_exportDocumentState lawful chat hexport]
  | image =>
      have hbytes : storedBytes env.libraries.ucan.encodings
          (textValue (savedData env chatState)) "image_state" = [] := by
        simp [storedBytes, savedData, textValue, Value.get, hbase.decode_empty]
      rw [ChatDoc.stateKey, hbytes, held_nil]

theorem opened_of_read {chatId userId : String} {app : ChatApp env.libraries.yrs}
    {resource : DecryptedResource}
    (hread : load env chatId userId app.repo = .ok resource) (which : ChatDoc) :
    held lawful ((resource.getDocumentState which.openedKey).getD []) =
      opened lawful app.repo chatId which := by
  obtain ⟨data, hdata, hdocuments⟩ := getResourceByIdDirect_documents _ hread
  simp only [opened, hdata]
  rw [← hdocuments]
  rfl

end Content

variable {L : Type*} [SemilatticeSup L] [OrderBot L]

def Opens (env : NetworkEnv) (action : ChatAction) (app : ChatApp env.libraries.yrs)
    (chatId : String) : Prop :=
  action = .openChat chatId ∧
    ∃ user device resource, env.currentUser = some user ∧
      env.currentDevice = some device ∧
      load env chatId user.id app.repo = .ok resource

def brings {yrs : Yrs} (lawful : ExactYrs yrs L) (action : ChatAction)
    (chatId : String) (which : ChatDoc) : L :=
  match action with
  | .liveUpdate id updates docType =>
      if chatId = id ∧ which = .ofDocType docType then held lawful updates else ⊥
  | .editorUpdate id updates docType =>
      if chatId = id ∧ which = .ofDocType docType then held lawful updates else ⊥
  | .peerUpdates id updates =>
      match updates.parseObject with
      | .ok input =>
          if chatId = id then held lawful (entryUpdates input which.stateKey) else ⊥
      | .error _ => ⊥
  | .openChat _ => ⊥
  | .save _ => ⊥

section Buffering

variable {env : NetworkEnv} (lawful : ExactYrs env.libraries.yrs L)

theorem openChat_run (chatId : String) (app : ChatApp env.libraries.yrs) :
    Opens env (.openChat chatId) app chatId ∧
        (∃ user resource, load env chatId user app.repo = .ok resource ∧
          openChat env chatId app =
            { app with
              chat := app.chat.loadChatResource chatId
                (resource.getDocumentState "main_doc")
                (resource.getDocumentState "image_state") }) ∨
      ¬Opens env (.openChat chatId) app chatId ∧ openChat env chatId app = app := by
  unfold openChat
  cases huser : env.currentUser with
  | none => exact .inr ⟨by simp [Opens, huser], rfl⟩
  | some user =>
      cases hdevice : env.currentDevice with
      | none => exact .inr ⟨by simp [Opens, hdevice], rfl⟩
      | some device =>
          cases hread : load env chatId user.id app.repo with
          | ok resource =>
              refine .inl ⟨⟨rfl, user, device, resource, huser, hdevice, hread⟩,
                user.id, resource, hread, ?_⟩
              unfold load at hread
              simp only [hread]
          | error error =>
              right
              refine ⟨?_, ?_⟩
              · rintro ⟨_, _, _, resource, huser', _, hread'⟩
                cases huser.symm.trans huser'
                cases hread.symm.trans hread'
              · unfold load at hread
                simp only [hread]

theorem buffering_repo (env : NetworkEnv) (action : ChatAction) (app : ChatApp env.libraries.yrs) :
    (action.buffering env app).repo = app.repo := by
  cases action with
  | openChat chatId =>
      unfold ChatAction.buffering openChat
      dsimp only
      split
      · split <;> rfl
      · rfl
  | liveUpdate | editorUpdate | peerUpdates | save => rfl

theorem buffered_applyPeerUpdates (chat : ChatState env.libraries.yrs)
    (chatId other : String) (updates : JsonText) (which : ChatDoc) :
    buffered lawful (chat.applyPeerUpdates chatId updates).2 other which =
      buffered lawful chat other which ⊔
        brings lawful (.peerUpdates chatId updates) other which := by
  unfold ChatState.applyPeerUpdates brings
  cases hparse : updates.parseObject with
  | error message => simp [hparse]
  | ok input =>
      simp only [hparse]
      rw [buffered_applyUpdate, buffered_applyUpdate]
      by_cases hother : other = chatId
      · cases which <;> simp [hother, ChatDoc.ofDocType, ChatDoc.stateKey] <;> rfl
      · simp [hother]

theorem buffered_buffering (env : NetworkEnv) (lawful : ExactYrs env.libraries.yrs L)
    (action : ChatAction) (app : ChatApp env.libraries.yrs) (chatId : String)
    (which : ChatDoc) :
    Opens env action app chatId ∧
        buffered lawful (action.buffering env app).chat chatId which =
          opened lawful app.repo chatId which ∧ brings lawful action chatId which = ⊥ ∨
      ¬Opens env action app chatId ∧
        buffered lawful (action.buffering env app).chat chatId which =
          buffered lawful app.chat chatId which ⊔ brings lawful action chatId which := by
  cases action with
  | openChat other =>
      rcases openChat_run other app with
        ⟨hopens, user, resource, hread, hopen⟩ | ⟨hopens, hopen⟩
      · by_cases hchat : chatId = other
        · subst hchat
          refine .inl ⟨hopens, ?_, rfl⟩
          simp only [ChatAction.buffering, hopen, buffered_loadChatResource, if_true,
            ← opened_of_read lawful hread]
          cases which <;> rfl
        · refine .inr ⟨fun hother => hchat (ChatAction.openChat.inj hother.1).symm, ?_⟩
          simp only [ChatAction.buffering, hopen, buffered_loadChatResource]
          simp [hchat, brings]
      · refine .inr ⟨fun hother => ?_, ?_⟩
        · cases hother.1
          exact hopens hother
        · simp [ChatAction.buffering, hopen, brings]
  | liveUpdate other updates docType =>
      refine .inr ⟨fun hother => (by cases hother.1), ?_⟩
      simp only [ChatAction.buffering, chatSyncUpdate, buffered_applyUpdate, brings]
      split <;> simp
  | editorUpdate other updates docType =>
      refine .inr ⟨fun hother => (by cases hother.1), ?_⟩
      simp only [ChatAction.buffering, chatSyncUpdate, buffered_applyUpdate, brings]
      split <;> simp
  | peerUpdates other updates =>
      exact .inr ⟨fun hother => (by cases hother.1),
        buffered_applyPeerUpdates lawful app.chat other chatId updates which⟩
  | save other =>
      exact .inr ⟨fun hother => (by cases hother.1), by simp [ChatAction.buffering, brings]⟩

end Buffering

section Saving

variable {env : NetworkEnv} (lawful : ExactYrs env.libraries.yrs L)

def savesDoc (env : NetworkEnv) (action : ChatAction) (app : ChatApp env.libraries.yrs)
    (chatId : String) (which : ChatDoc) : Prop :=
  which = .main ∧ action.saving = some chatId ∧
    saveSucceeds env chatId (action.buffering env app) = true

instance (env : NetworkEnv) (action : ChatAction) (app : ChatApp env.libraries.yrs)
    (chatId : String) (which : ChatDoc) :
    Decidable (savesDoc env action app chatId which) :=
  inferInstanceAs (Decidable (_ ∧ _ ∧ _))

theorem run_chat (action : ChatAction) (app : ChatApp env.libraries.yrs) :
    (action.run env app).chat = (action.buffering env app).chat := by
  rw [ChatAction.run_eq]
  cases action.saving with
  | none => rfl
  | some chatId => exact saveChatToDatabase_chat env chatId _

inductive StoredResult (env : NetworkEnv) (lawful : ExactYrs env.libraries.yrs L)
    (action : ChatAction) (app app' : ChatApp env.libraries.yrs) (chatId : String) :
    Prop
  | saved : action.saving = some chatId →
      (∀ which, stored lawful env.libraries.ucan.encodings app'.repo chatId which =
        match which with
        | .main => buffered lawful app'.chat chatId .main
        | .image => ⊥) → StoredResult env lawful action app app' chatId
  | kept : stored lawful env.libraries.ucan.encodings app'.repo chatId =
        stored lawful env.libraries.ucan.encodings app.repo chatId →
      (∀ which, ¬savesDoc env action app chatId which) →
      StoredResult env lawful action app app' chatId

theorem run_stored (env : NetworkEnv) (lawful : ExactYrs env.libraries.yrs L)
    (hbase : LawfulBase64 env.libraries.ucan.encodings)
    (action : ChatAction) (app : ChatApp env.libraries.yrs) (chatId : String) :
    StoredResult env lawful action app (action.run env app) chatId := by
  cases hsaving : action.saving with
  | none =>
      refine .kept ?_ fun which hsaves => ?_
      · rw [ChatAction.run_eq, hsaving, buffering_repo env]
      · cases hsaving.symm.trans hsaves.2.1
  | some saved =>
      have hrun : action.run env app =
          saveChatToDatabase env saved (action.buffering env app) := by
        rw [ChatAction.run_eq, hsaving]
      rw [hrun]
      cases saveChatToDatabase_repo env saved (action.buffering env app) with
      | saved chatState hexport hwritten =>
          by_cases hchat : chatId = saved
          · subst hchat
            refine .saved hsaving fun which => ?_
            rw [saveChatToDatabase_chat]
            exact stored_saved lawful hbase hexport hwritten which
          · refine .kept ?_ fun which hsaves => ?_
            · rw [← buffering_repo env action app]
              exact stored_congr lawful (hwritten.others chatId hchat)
            · exact hchat (Option.some.inj (hsaves.2.1.symm.trans hsaving))
      | failed hsame hfails =>
          refine .kept ?_ fun which hsaves => ?_
          · rw [← buffering_repo env action app]
            exact stored_congr lawful (hsame chatId)
          · obtain rfl : chatId = saved :=
              Option.some.inj (hsaves.2.1.symm.trans hsaving)
            exact Bool.false_ne_true (hfails.symm.trans hsaves.2.2)

end Saving

structure ChatLedger (L : Type*) where
  received : String → ChatDoc → L
  unsaved : String → ChatDoc → L

structure ChatRecord (yrs : Yrs) (L : Type*) where
  app : ChatApp yrs
  ledger : ChatLedger L

section Runs

variable {env : NetworkEnv} (lawful : ExactYrs env.libraries.yrs L)

def recordStep (event : ChatEvent) (record : ChatRecord env.libraries.yrs L) :
    ChatRecord env.libraries.yrs L :=
  { app := event.action.run (atMoment env event.moment) record.app
    ledger :=
      { received := fun chatId which =>
          record.ledger.received chatId which ⊔
            brings lawful event.action chatId which
        unsaved := fun chatId which =>
          if savesDoc (atMoment env event.moment) event.action record.app chatId which
          then ⊥
          else record.ledger.unsaved chatId which ⊔
            brings lawful event.action chatId which } }

variable (repo : RepositoryContext)

def afterChats (events : List ChatEvent) : ChatRecord env.libraries.yrs L :=
  run (recordStep lawful)
    { app := { repo, chat := ChatState.new env.libraries.yrs }
      ledger := { received := fun _ _ => ⊥, unsaved := fun _ _ => ⊥ } }
    events

def ChatRecord.stored (record : ChatRecord env.libraries.yrs L) :
    String → ChatDoc → L :=
  Libremot.stored lawful env.libraries.ucan.encodings record.app.repo

def OpensWhole (event : ChatEvent) (before after : ChatRecord env.libraries.yrs L) :
    Prop :=
  ∀ chatId which, Opens (atMoment env event.moment) event.action before.app chatId →
    buffered lawful after.app.chat chatId which =
      after.stored lawful chatId which ⊔ after.ledger.unsaved chatId which

/-- What has been received for a document is stored or buffered for it, and
nothing else is than that and what was stored at the start. -/
structure NothingLost (start record : ChatRecord env.libraries.yrs L) : Prop where
  kept : ∀ chatId which, record.ledger.received chatId which ≤
    record.stored lawful chatId which ⊔ buffered lawful record.app.chat chatId which
  own : ∀ chatId which, record.stored lawful chatId which ⊔
      buffered lawful record.app.chat chatId which ≤
    start.stored lawful chatId which ⊔ record.ledger.received chatId which

/-- What opening the chat reads, from `main_doc` and `image_state`, is what is
stored for the chat and what is not saved yet. -/
def OpensLossless (event : ChatEvent) (before : ChatRecord env.libraries.yrs L) :
    Prop :=
  ∀ chatId which, Opens (atMoment env event.moment) event.action before.app chatId →
    opened lawful before.app.repo chatId which =
      before.stored lawful chatId which ⊔ before.ledger.unsaved chatId which

variable {record : ChatRecord env.libraries.yrs L}

structure Accounted (start record : ChatRecord env.libraries.yrs L) : Prop where
  lost : NothingLost lawful start record
  buffer : ∀ chatId which, record.ledger.received chatId which ≤
    buffered lawful record.app.chat chatId which
  noted : ∀ chatId which, record.ledger.received chatId which ≤
    record.stored lawful chatId which ⊔ record.ledger.unsaved chatId which
  unsaved : ∀ chatId which, record.ledger.unsaved chatId which ≤
    record.ledger.received chatId which
  image : ∀ chatId, record.ledger.unsaved chatId .image =
    record.ledger.received chatId .image

variable {lawful} {repo}

theorem Accounted.stored_le {start : ChatRecord env.libraries.yrs L}
    (haccounted : Accounted lawful start record) (chatId : String) (which : ChatDoc) :
    record.stored lawful chatId which ≤
      start.stored lawful chatId which ⊔ record.ledger.received chatId which :=
  le_sup_left.trans (haccounted.lost.own chatId which)

theorem Accounted.buffered_step {start : ChatRecord env.libraries.yrs L} {event : ChatEvent}
    (haccounted : Accounted lawful start record) (hopens : OpensLossless lawful event record)
    (chatId : String) (which : ChatDoc) :
    let after := recordStep lawful event record
    after.ledger.received chatId which ≤
        buffered lawful after.app.chat chatId which ∧
      buffered lawful after.app.chat chatId which ≤
        start.stored lawful chatId which ⊔ after.ledger.received chatId which := by
  dsimp only [recordStep]
  rw [run_chat]
  rcases buffered_buffering (atMoment env event.moment) lawful event.action record.app
    chatId which with ⟨hopen, hbuffered, hbrings⟩ | ⟨_, hbuffered⟩
  · rw [hbuffered, hbrings, sup_of_le_left bot_le]
    have hloaded : opened lawful record.app.repo chatId which = _ :=
      hopens chatId which hopen
    rw [hloaded]
    exact ⟨haccounted.noted chatId which, sup_le (haccounted.stored_le chatId which)
      ((haccounted.unsaved chatId which).trans le_sup_right)⟩
  · rw [hbuffered, ← sup_assoc]
    exact ⟨sup_le_sup_right (haccounted.buffer chatId which) _,
      sup_le_sup_right (le_sup_right.trans (haccounted.lost.own chatId which)) _⟩

theorem Accounted.step (hbase : LawfulBase64 env.libraries.ucan.encodings)
    {start record : ChatRecord env.libraries.yrs L} {event : ChatEvent}
    (haccounted : Accounted lawful start record)
    (hopens : OpensLossless lawful event record) :
    Accounted lawful start (recordStep lawful event record) := by
  have hbuffer := haccounted.buffered_step hopens
  have hstored := run_stored (atMoment env event.moment) lawful hbase event.action
    record.app
  refine ⟨⟨fun chatId which => ?_, fun chatId which => ?_⟩, fun chatId which => ?_,
    fun chatId which => ?_, fun chatId which => ?_, fun chatId => ?_⟩
  · exact (hbuffer chatId which).1.trans le_sup_right
  · refine sup_le ?_ (hbuffer chatId which).2
    cases hstored chatId with
    | saved _ hcontent =>
        refine (hcontent which).le.trans ?_
        cases which with
        | main => exact (hbuffer chatId .main).2
        | image => exact bot_le
    | kept hcontent _ =>
        refine (congrFun hcontent which).le.trans ?_
        exact (haccounted.stored_le chatId which).trans (sup_le_sup_left le_sup_left _)
  · exact (hbuffer chatId which).1
  · cases hstored chatId with
    | saved _ hcontent =>
        cases which with
        | main =>
            exact (hbuffer chatId .main).1.trans
              ((hcontent .main).ge.trans le_sup_left)
        | image =>
            refine le_trans ?_ le_sup_right
            simp [recordStep, savesDoc, haccounted.image]
    | kept hcontent hunsaved =>
        have hnoted := sup_le_sup_right (haccounted.noted chatId which)
          (brings lawful event.action chatId which)
        rw [sup_assoc] at hnoted
        simp only [recordStep, hunsaved which, if_false]
        exact hnoted.trans (sup_le_sup_right (congrFun hcontent which).ge _)
  · simp only [recordStep]
    split
    · exact bot_le
    · exact sup_le_sup_right (haccounted.unsaved chatId which) _
  · simp [recordStep, savesDoc, haccounted.image]

theorem OpensLossless.step {record : ChatRecord env.libraries.yrs L} {event : ChatEvent}
    (hopens : OpensLossless lawful event record) :
    OpensWhole lawful event record (recordStep lawful event record) := by
  intro chatId which hopen
  have haction : event.action = .openChat chatId := hopen.1
  rcases buffered_buffering (atMoment env event.moment) lawful event.action record.app
    chatId which with ⟨_, hbuffered, hbrings⟩ | ⟨hclosed, _⟩
  · have hrepo : (event.action.run (atMoment env event.moment) record.app).repo =
        record.app.repo := by
      rw [haction]
      exact buffering_repo (atMoment env event.moment) (.openChat chatId) record.app
    have hunsaved : ¬savesDoc (atMoment env event.moment) event.action record.app
        chatId which := by
      intro hsaves
      rw [haction] at hsaves
      cases hsaves.2.1
    have hloaded : opened lawful record.app.repo chatId which = _ :=
      hopens chatId which hopen
    simp only [recordStep, ChatRecord.stored, hrepo, hunsaved, if_false, hbrings,
      sup_of_le_left bot_le]
    rw [run_chat, hbuffered, hloaded]
    rfl
  · exact absurd hopen hclosed

theorem Accounted.start : Accounted lawful (afterChats lawful repo [])
    (afterChats lawful repo []) where
  lost := ⟨fun _ _ => bot_le, fun _ _ => sup_le le_sup_left bot_le⟩
  buffer _ _ := bot_le
  noted _ _ := bot_le
  unsaved _ _ := le_rfl
  image _ := rfl

/-- When every opening is lossless, the chats that are opened hold what is
stored and not saved yet, and no update is ever lost. -/
theorem opening_chats_loses_nothing {L : Type*} [SemilatticeSup L] [OrderBot L]
    (env : NetworkEnv) (lawful : ExactYrs env.libraries.yrs L)
    (hbase : LawfulBase64 env.libraries.ucan.encodings) (repo : RepositoryContext)
    (events : List ChatEvent)
    (hopens : ∀ earlier event, earlier ++ [event] <+: events →
      OpensLossless lawful event (afterChats lawful repo earlier)) :
    (∀ earlier event, earlier ++ [event] <+: events →
      OpensWhole lawful event (afterChats lawful repo earlier)
        (afterChats lawful repo (earlier ++ [event]))) ∧
      ∀ earlier, earlier <+: events →
        NothingLost lawful (afterChats lawful repo []) (afterChats lawful repo earlier) := by
  constructor
  · intro earlier event hearlier
    unfold afterChats
    rw [run_concat]
    exact (hopens earlier event hearlier).step
  · intro earlier hearlier
    have haccounted : Accounted lawful (afterChats lawful repo [])
        (afterChats lawful repo earlier) := by
      refine @run_invariant _ _ (recordStep lawful) _ events
        (fun _ record => Accounted lawful (afterChats lawful repo []) record)
        .start ?_ earlier hearlier
      intro before event hbefore hrecord
      exact hrecord.step hbase (hopens before event hbefore)
    exact haccounted.lost

end Runs

def chatMoment : Moment :=
  { now := 0, cert := some "R", currentUser := some (.sample "R")
    currentDevice := some (.sample "dev-R" "R") }

def chatEvents (actions : List ChatAction) : List ChatEvent :=
  actions.map fun action => { moment := chatMoment, action }

def chatLaws : ExactYrs chatEnv.libraries.yrs (Fin 8 → Bool) :=
  Yrs.exactBits

theorem chatEnv_base64 : LawfulBase64 chatEnv.libraries.ucan.encodings :=
  ⟨Base64.decode_encode, Base64.decode_empty⟩

def reopenedChat : List ChatEvent :=
  chatEvents [.liveUpdate "c" [4] "chat", .openChat "c", .liveUpdate "c" [8] "chat"]

theorem reopened_chat_loses_update :
    ¬ ∀ events,
      (∀ earlier event, earlier ++ [event] <+: events →
        OpensWhole chatLaws event (afterChats chatLaws chatStore earlier)
          (afterChats chatLaws chatStore (earlier ++ [event]))) ∧
        ∀ earlier, earlier <+: events →
          NothingLost chatLaws (afterChats chatLaws chatStore [])
            (afterChats chatLaws chatStore earlier) := by
  intro hall
  have hkept := ((hall reopenedChat).2 reopenedChat List.prefix_rfl).kept "c" .main
  exact absurd (hkept 2) (by decide +kernel)

def emptyChatStore : RepositoryContext :=
  { chatStore with
    resources := [.new "c" 0 .chat (.sealed "k" (.encoded (.object
      [("chat", .ofBytes []), ("image_state", .ofBytes [])]))) "folder" "" "R"] }

def openedOnce : List ChatEvent :=
  chatEvents [.openChat "c", .liveUpdate "c" [4] "chat", .editorUpdate "c" [8] "chat",
    .save "c"]

theorem openedOnce_lossless : EachEvent (fun earlier event =>
    OpensLossless chatLaws event (afterChats chatLaws emptyChatStore earlier)) []
    openedOnce := by
  refine ⟨?_, ?_, ?_, ?_, trivial⟩
  · intro chatId which hopen
    cases hopen.1
    cases which <;> rfl
  all_goals
    intro chatId which hopen
    cases hopen.1

theorem opening_chats_loses_nothing_openedOnce :
    (∀ earlier event, earlier ++ [event] <+: openedOnce →
      OpensWhole chatLaws event (afterChats chatLaws emptyChatStore earlier)
        (afterChats chatLaws emptyChatStore (earlier ++ [event]))) ∧
      ∀ earlier, earlier <+: openedOnce →
        NothingLost chatLaws (afterChats chatLaws emptyChatStore [])
          (afterChats chatLaws emptyChatStore earlier) :=
  opening_chats_loses_nothing chatEnv chatLaws chatEnv_base64 emptyChatStore openedOnce
    fun _ _ hearlier => openedOnce_lossless.of_prefix hearlier

end Osvauld.Libremot
