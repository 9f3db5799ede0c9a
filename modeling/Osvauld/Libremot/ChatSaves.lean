import Osvauld.Libremot.ChatRuns

namespace Osvauld.Libremot

open Osvauld.Core Data Network Persistance Services

variable {L : Type*} [SemilatticeSup L] [OrderBot L]

/-! What a sync merge makes of the stored chats. -/

section Merging

theorem unbotD_sup (first second : WithBot L) :
    (first ⊔ second).unbotD ⊥ = first.unbotD ⊥ ⊔ second.unbotD ⊥ := by
  cases first with
  | bot => simp
  | coe first =>
      cases second with
      | bot => simp
      | coe second =>
          rw [← WithBot.coe_sup]
          rfl

variable {yrs : Yrs} (lawful : ExactYrs yrs L)

variable {encodings : CryptoUtils.Encodings}

theorem storedBytes_congr {value value' : Value} {stateKey : String}
    (hget : value'.get stateKey = value.get stateKey) :
    storedBytes encodings value' stateKey = storedBytes encodings value stateKey := by
  simp [storedBytes, Value.documentBytes, hget]

theorem storedBytes_of_bytes {value : Value} {stateKey : String}
    (hbytes : (value.documentBytes stateKey).isSome) :
    storedBytes encodings value stateKey =
      (value.documentBytes stateKey).getD [] := by
  unfold storedBytes
  split
  · next text hget => simp [Value.documentBytes, hget, Value.asBytes, Value.asArray] at hbytes
  · rfl

theorem held_documentBytes (value : Value) (stateKey : String) :
    held lawful ((value.documentBytes stateKey).getD []) =
      (lawful.documentContent value stateKey).unbotD ⊥ := by
  unfold LawfulYrs.documentContent
  cases value.documentBytes stateKey with
  | none => simp
  | some bytes => rfl

theorem unbotD_brought (input : List (String × Value)) (stateKey : String) :
    (lawful.brought input stateKey).unbotD ⊥ =
      held lawful (entryUpdates input stateKey) := by
  unfold LawfulYrs.brought
  split
  · next hempty => rw [List.isEmpty_iff.mp hempty, held_nil, WithBot.unbotD_bot]
  · rfl

def MergesInto (repo : RepositoryContext) (chatId : String) (which : ChatDoc) : Prop :=
  ∃ data, storedData? repo chatId = some data ∧
    ((plainValue data).documentBytes which.stateKey).isSome

theorem get_of_decrypted {env : ServiceEnv} {row : ResourceWithKey}
    {resource : DecryptedResource}
    (hdecrypt : decryptSingleResource env row = .ok resource) (which : ChatDoc) :
    resource.data.get which.stateKey =
      (plainValue row.resource.data).get which.stateKey := by
  rcases decryptSingleResource_data env hdecrypt with hdata | ⟨hdata, hplain⟩
  · rw [hdata]
  · rw [hdata, hplain]
    cases which <;> rfl

theorem held_syncUpdates {resource merged : DecryptedResource} {updates answers : JsonText}
    (hsync : resource.syncUpdates yrs updates = .ok (merged, answers)) (stateKey : String) :
    held lawful (storedBytes encodings merged.data stateKey) ≤
        held lawful (storedBytes encodings resource.data stateKey) ∨
      (resource.data.documentBytes stateKey).isSome ∧
        ∃ input, updates.parseObject = .ok input ∧
          held lawful (storedBytes encodings merged.data stateKey) ≤
            held lawful (storedBytes encodings resource.data stateKey) ⊔
              held lawful (entryUpdates input stateKey) := by
  rcases syncUpdates_onlyBytesChange hsync stateKey with hsame | ⟨hbefore, hafter⟩
  · rw [storedBytes_congr hsame]
    exact .inl le_rfl
  · obtain ⟨input, hinput, htakes⟩ :=
      DecryptedResource.syncUpdates_ok lawful.toLawfulYrs hsync
    refine .inr ⟨hbefore, input, hinput, ?_⟩
    rw [storedBytes_of_bytes hbefore, storedBytes_of_bytes hafter,
      held_documentBytes, held_documentBytes, htakes.content, unbotD_sup]
    split
    · rw [unbotD_brought]
    · exact sup_le_sup_left bot_le _

end Merging

theorem stored_merge (env : NetworkEnv) (lawful : ExactYrs env.libraries.yrs L)
    (resourceId userId chatId : String) (updates : JsonText) (repo : RepositoryContext)
    (which : ChatDoc) :
    let repo' := ((applyUpdatesAndGetPeerUpdates env.toServiceEnv resourceId userId
      updates).run repo).2
    stored lawful env.libraries.ucan.encodings repo' chatId which ≤
        stored lawful env.libraries.ucan.encodings repo chatId which ∨
      chatId = resourceId ∧ MergesInto repo chatId which ∧
        stored lawful env.libraries.ucan.encodings repo' chatId which ≤
          stored lawful env.libraries.ucan.encodings repo chatId which ⊔
            brings lawful (.peerUpdates resourceId updates) chatId which := by
  intro repo'
  cases applyUpdatesAndGetPeerUpdates_run env.toServiceEnv resourceId userId updates
    repo with
  | failed hsame => exact .inl (congrFun (stored_congr lawful (hsame chatId)) which).le
  | merged row resource merged answers hrow hdecrypt hsync hsaved =>
      by_cases hchat : chatId = resourceId
      · subst hchat
        have hdata : storedData? repo chatId = some row.resource.data := by
          simp [storedData?, hrow]
        obtain ⟨data', hdata', hplain'⟩ := Option.map_eq_some_iff.mp hsaved.written
        have hbefore : stored lawful env.libraries.ucan.encodings repo chatId which =
            held lawful (storedBytes env.libraries.ucan.encodings resource.data
              which.stateKey) := by
          rw [storedBytes_congr (get_of_decrypted hdecrypt which)]
          simp [stored, dataContent, hdata]
        have hafter : stored lawful env.libraries.ucan.encodings repo' chatId which =
            held lawful (storedBytes env.libraries.ucan.encodings merged.data
              which.stateKey) := by
          simp only [stored, dataContent, repo', hdata', hplain']
          rfl
        rw [hbefore, hafter]
        rcases held_syncUpdates lawful hsync which.stateKey with
          hkept | ⟨hbytes, input, hinput, hjoin⟩
        · exact .inl hkept
        · refine .inr ⟨rfl, ⟨_, hdata, ?_⟩, ?_⟩
          · unfold Value.documentBytes at hbytes ⊢
            rw [← get_of_decrypted hdecrypt which]
            exact hbytes
          · simpa [brings, hinput] using hjoin
      · exact .inl
          (congrFun (stored_congr lawful (hsaved.others chatId hchat)) which).le

def ChatAction.touches (action : ChatAction) (chatId : String) : Prop :=
  match action with
  | .liveUpdate id updates _ => chatId = id ∧ updates ≠ []
  | .editorUpdate id updates _ => chatId = id ∧ updates ≠ []
  | .peerUpdates id updates => chatId = id ∧ ∃ input, updates.parseObject = .ok input ∧
      (entryUpdates input "chat" ≠ [] ∨ entryUpdates input "image_state" ≠ [])
  | .openChat _ => False
  | .save _ => False

theorem isSome_applyPeerUpdates {yrs : Yrs} (chat : ChatState yrs)
    (chatId other : String) (updates : JsonText) :
    ((chat.applyPeerUpdates chatId updates).2.buffers other).isSome ↔
      (chat.buffers other).isSome ∨
        (ChatAction.peerUpdates chatId updates).touches other := by
  unfold ChatState.applyPeerUpdates ChatAction.touches
  cases hparse : updates.parseObject with
  | error message => simp [hparse]
  | ok input =>
      simp only [hparse, isSome_buffers_applyUpdate, Except.ok.injEq, exists_eq_left']
      change ((chat.buffers other).isSome ∨
        other = chatId ∧ entryUpdates input "chat" ≠ []) ∨
          other = chatId ∧ entryUpdates input "image_state" ≠ [] ↔ _
      rw [or_assoc, ← and_or_left]

theorem isSome_buffering (env : NetworkEnv) (action : ChatAction)
    (app : ChatApp env.libraries.yrs) (chatId : String) :
    ((action.buffering env app).chat.buffers chatId).isSome ↔
      Opens env action app chatId ∨ (app.chat.buffers chatId).isSome ∨
        action.touches chatId := by
  cases action with
  | openChat other =>
      rcases openChat_run other app with ⟨hopens, user, resource, _, hopen⟩ | ⟨hopens, hopen⟩
      · by_cases hchat : chatId = other
        · subst hchat
          simp [ChatAction.buffering, hopen, ChatState.loadChatResource, hopens]
        · have hother : ¬Opens env (.openChat other) app chatId :=
            fun hopens => hchat (ChatAction.openChat.inj hopens.1).symm
          simp [ChatAction.buffering, hopen, ChatState.loadChatResource, hchat, hother,
            ChatAction.touches]
      · have hclosed : ¬Opens env (.openChat other) app chatId := by
          intro hother
          cases hother.1
          exact hopens hother
        simp [ChatAction.buffering, hopen, hclosed, ChatAction.touches]
  | liveUpdate other updates docType =>
      simp [ChatAction.buffering, chatSyncUpdate, isSome_buffers_applyUpdate, Opens,
        ChatAction.touches]
  | editorUpdate other updates docType =>
      simp [ChatAction.buffering, chatSyncUpdate, isSome_buffers_applyUpdate, Opens,
        ChatAction.touches]
  | peerUpdates other updates =>
      simp [ChatAction.buffering, isSome_applyPeerUpdates, Opens]
  | save other => simp [ChatAction.buffering, Opens, ChatAction.touches]

theorem held_of_not_touched {yrs : Yrs} (lawful : ExactYrs yrs L) {touched meant : Prop}
    [Decidable (touched ∧ meant)] {updates : Bytes}
    (htouches : ¬(touched ∧ updates ≠ [])) :
    (if touched ∧ meant then held lawful updates else ⊥ : L) = ⊥ := by
  split
  · next htouched =>
      have hnil : updates = [] := by
        by_contra hupdates
        exact htouches ⟨htouched.1, hupdates⟩
      rw [hnil, held_nil]
  · rfl

theorem brings_of_not_touches {yrs : Yrs} (lawful : ExactYrs yrs L)
    {action : ChatAction} {chatId : String} (htouches : ¬action.touches chatId)
    (which : ChatDoc) : brings lawful action chatId which = ⊥ := by
  cases action with
  | openChat | save => rfl
  | liveUpdate | editorUpdate => exact held_of_not_touched lawful htouches
  | peerUpdates other updates =>
      simp only [brings]
      cases hparse : updates.parseObject with
      | error message => rfl
      | ok input =>
          dsimp only
          split
          · next hchat =>
              have hnil : entryUpdates input which.stateKey = [] := by
                by_contra hupdates
                refine htouches ⟨hchat, input, hparse, ?_⟩
                cases which with
                | main => exact .inl hupdates
                | image => exact .inr hupdates
              rw [hnil, held_nil]
          · rfl

inductive StoreEvent where
  | chat (event : ChatEvent)
  | merge (moment : Moment) (resourceId userId : String) (updates : JsonText)

structure AppliedChats (yrs : Yrs) (L : Type*) where
  app : ChatApp yrs
  applied : String → L

section Runs

variable {env : NetworkEnv} (lawful : ExactYrs env.libraries.yrs L)

def storeStep (event : StoreEvent) (chats : AppliedChats env.libraries.yrs L) :
    AppliedChats env.libraries.yrs L :=
  match event with
  | .chat event =>
      { app := event.action.run (atMoment env event.moment) chats.app
        applied := fun chatId =>
          chats.applied chatId ⊔ brings lawful event.action chatId .main }
  | .merge moment resourceId userId updates =>
      let merging := applyUpdatesAndGetPeerUpdates (atMoment env moment).toServiceEnv
        resourceId userId updates
      { chats with app := { chats.app with repo := (merging.run chats.app.repo).2 } }

def afterStoring (repo : RepositoryContext) (events : List StoreEvent) :
    AppliedChats env.libraries.yrs L :=
  run (storeStep lawful)
    { app := { repo, chat := ChatState.new env.libraries.yrs }, applied := fun _ => ⊥ }
    events

def AppliedChats.stored (chats : AppliedChats env.libraries.yrs L) (chatId : String) :
    L :=
  Libremot.stored lawful env.libraries.ucan.encodings chats.app.repo chatId .main

/-- A save that succeeds leaves everything stored that was stored before it and
that has been applied to the chat's buffer. -/
def SaveKeeps (event : StoreEvent) (before after : AppliedChats env.libraries.yrs L) :
    Prop :=
  match event with
  | .chat event => ∀ chatId,
      savesDoc (atMoment env event.moment) event.action before.app chatId .main →
        before.stored lawful chatId ⊔ after.applied chatId ≤
          after.stored lawful chatId
  | .merge _ _ _ _ => True

/-- A chat that is opened: what the opening reads from `main_doc` contains the
stored document and the applied updates. A chat without a buffer: what arrives
contains the stored document. A merge into the stored document of a chat with a
buffer: the buffer contains what is merged. -/
def BufferKeepsUp (event : StoreEvent) (before : AppliedChats env.libraries.yrs L) :
    Prop :=
  match event with
  | .chat event => ∀ chatId,
      (Opens (atMoment env event.moment) event.action before.app chatId →
        before.stored lawful chatId ⊔ before.applied chatId ≤
          opened lawful before.app.repo chatId .main) ∧
        (event.action.touches chatId → before.app.chat.buffers chatId = none →
          before.stored lawful chatId ≤ brings lawful event.action chatId .main)
  | .merge _ resourceId _ updates =>
      MergesInto before.app.repo resourceId .main →
        (before.app.chat.buffers resourceId).isSome →
          brings lawful (.peerUpdates resourceId updates) resourceId .main ≤
            buffered lawful before.app.chat resourceId .main

structure Covered (chats : AppliedChats env.libraries.yrs L) (chatId : String) :
    Prop where
  buffer : (chats.app.chat.buffers chatId).isSome →
    chats.stored lawful chatId ⊔ chats.applied chatId ≤
      buffered lawful chats.app.chat chatId .main
  noBuffer : chats.app.chat.buffers chatId = none → chats.applied chatId = ⊥

variable {lawful} {chats : AppliedChats env.libraries.yrs L} {chatId : String}

theorem Covered.buffering {event : ChatEvent} (hcovered : Covered lawful chats chatId)
    (hkeeps : BufferKeepsUp lawful (.chat event) chats)
    (hbuffer : ((storeStep lawful (.chat event) chats).app.chat.buffers chatId).isSome) :
    chats.stored lawful chatId ⊔ (storeStep lawful (.chat event) chats).applied chatId ≤
      buffered lawful (storeStep lawful (.chat event) chats).app.chat chatId .main := by
  dsimp only [storeStep] at hbuffer ⊢
  rw [run_chat] at hbuffer ⊢
  rcases buffered_buffering (atMoment env event.moment) lawful event.action chats.app
    chatId .main with ⟨hopen, hbuffered, hbrings⟩ | ⟨hclosed, hbuffered⟩
  · rw [hbuffered, hbrings, sup_of_le_left bot_le]
    exact (hkeeps chatId).1 hopen
  · rw [hbuffered, ← sup_assoc]
    cases hbefore : chats.app.chat.buffers chatId with
    | some buffers => exact sup_le_sup_right (hcovered.buffer (by simp [hbefore])) _
    | none =>
        have htouches : event.action.touches chatId := by
          simpa [isSome_buffering, hclosed, hbefore] using hbuffer
        rw [hcovered.noBuffer hbefore, sup_of_le_left bot_le]
        exact sup_le (((hkeeps chatId).2 htouches hbefore).trans le_sup_right)
          le_sup_right

theorem Covered.chat_step (hbase : LawfulBase64 env.libraries.ucan.encodings)
    {event : ChatEvent} (hcovered : Covered lawful chats chatId)
    (hkeeps : BufferKeepsUp lawful (.chat event) chats) :
    Covered lawful (storeStep lawful (.chat event) chats) chatId := by
  have hbuffering := hcovered.buffering hkeeps
  refine ⟨fun hbuffer => ?_, fun hnone => ?_⟩
  · cases run_stored (atMoment env event.moment) lawful hbase event.action chats.app
      chatId with
    | saved _ hcontent =>
        refine sup_le (hcontent .main).le ?_
        exact le_sup_right.trans (hbuffering hbuffer)
    | kept hcontent _ =>
        refine sup_le ?_ (le_sup_right.trans (hbuffering hbuffer))
        exact (congrFun hcontent .main).le.trans (le_sup_left.trans (hbuffering hbuffer))
  · dsimp only [storeStep] at hnone ⊢
    rw [run_chat] at hnone
    have hclosed : ¬(Opens (atMoment env event.moment) event.action chats.app chatId ∨
        (chats.app.chat.buffers chatId).isSome ∨ event.action.touches chatId) := by
      rw [← isSome_buffering, hnone]
      simp
    have hbefore : chats.app.chat.buffers chatId = none :=
      Option.not_isSome_iff_eq_none.mp fun hsome => hclosed (.inr (.inl hsome))
    rw [hcovered.noBuffer hbefore, sup_of_le_right bot_le]
    exact brings_of_not_touches lawful
      (fun htouches => hclosed (.inr (.inr htouches))) .main

theorem Covered.merge_step {moment : Moment} {resourceId userId : String}
    {updates : JsonText} (hcovered : Covered lawful chats chatId)
    (hkeeps : BufferKeepsUp lawful (.merge moment resourceId userId updates) chats) :
    Covered lawful (storeStep lawful (.merge moment resourceId userId updates) chats)
      chatId := by
  refine ⟨fun hbuffer => ?_, hcovered.noBuffer⟩
  have hbefore := hcovered.buffer hbuffer
  refine sup_le ?_ (le_sup_right.trans hbefore)
  rcases stored_merge (atMoment env moment) lawful resourceId userId chatId updates
    chats.app.repo .main with hkept | ⟨hchat, hmerges, hjoin⟩
  · exact hkept.trans (le_sup_left.trans hbefore)
  · subst hchat
    exact hjoin.trans (sup_le (le_sup_left.trans hbefore) (hkeeps hmerges hbuffer))

theorem isSome_of_saveSucceeds {env : NetworkEnv} {app : ChatApp env.libraries.yrs}
    (hsaves : saveSucceeds env chatId app = true) :
    (app.chat.buffers chatId).isSome := by
  cases hbuffers : app.chat.buffers chatId with
  | some buffers => rfl
  | none =>
      have hunsaved : chatSave env chatId app.chat = none := by
        unfold chatSave ChatState.exportDocumentState
        rw [hbuffers]
        cases env.currentUser <;> cases env.currentDevice <;> rfl
      simp [saveSucceeds, hunsaved] at hsaves

theorem SaveKeeps.step (hbase : LawfulBase64 env.libraries.ucan.encodings)
    {event : StoreEvent} (hcovered : ∀ chatId, Covered lawful chats chatId)
    (hkeeps : BufferKeepsUp lawful event chats) :
    SaveKeeps lawful event chats (storeStep lawful event chats) := by
  cases event with
  | merge moment resourceId userId updates => trivial
  | chat event =>
      intro chatId hsaves
      have hbuffer : ((storeStep lawful (.chat event) chats).app.chat.buffers
          chatId).isSome := by
        dsimp only [storeStep]
        rw [run_chat]
        exact isSome_of_saveSucceeds hsaves.2.2
      refine ((hcovered chatId).buffering hkeeps hbuffer).trans ?_
      cases run_stored (atMoment env event.moment) lawful hbase event.action chats.app
        chatId with
      | saved _ hcontent => exact (hcontent .main).ge
      | kept _ hunsaved => exact absurd hsaves (hunsaved .main)

/-- When the buffers keep up with the store, no save shrinks what is stored. -/
theorem saves_never_shrink_chats {L : Type*} [SemilatticeSup L] [OrderBot L]
    (env : NetworkEnv) (lawful : ExactYrs env.libraries.yrs L)
    (hbase : LawfulBase64 env.libraries.ucan.encodings) (repo : RepositoryContext)
    (events : List StoreEvent)
    (hkeeps : ∀ earlier event, earlier ++ [event] <+: events →
      BufferKeepsUp lawful event (afterStoring lawful repo earlier)) :
    ∀ earlier event, earlier ++ [event] <+: events →
      SaveKeeps lawful event (afterStoring lawful repo earlier)
        (afterStoring lawful repo (earlier ++ [event])) := by
  intro earlier event hearlier
  have hcovered : ∀ chatId, Covered lawful (afterStoring lawful repo earlier) chatId := by
    refine @run_invariant _ _ (storeStep lawful) _ events
      (fun _ chats => ∀ chatId, Covered lawful chats chatId) ?_ ?_ earlier
      ((List.prefix_append earlier [event]).trans hearlier)
    · exact fun chatId => ⟨fun hbuffer => (by cases hbuffer), fun _ => rfl⟩
    · intro before next hbefore hchats chatId
      cases next with
      | chat next => exact (hchats chatId).chat_step hbase (hkeeps before _ hbefore)
      | merge => exact (hchats chatId).merge_step (hkeeps before _ hbefore)
  unfold afterStoring
  rw [run_concat]
  exact SaveKeeps.step hbase hcovered (hkeeps earlier event hearlier)

end Runs

def unopenedChat : List StoreEvent :=
  [.chat ⟨chatMoment, .liveUpdate "c" [4] "chat"⟩]

/-- The save leaves only the live update stored. -/
theorem unopened_chat_shrinks :
    ¬ ∀ events earlier event, earlier ++ [event] <+: events →
      SaveKeeps chatLaws event (afterStoring chatLaws chatStore earlier)
        (afterStoring chatLaws chatStore (earlier ++ [event])) := by
  intro hall
  have hkeeps := hall unopenedChat [] _ List.prefix_rfl "c" ⟨rfl, rfl, rfl⟩
  exact absurd (hkeeps 0) (by decide +kernel)

def mergedChat : List StoreEvent :=
  [.chat ⟨chatMoment, .openChat "c"⟩,
    .chat ⟨chatMoment, .editorUpdate "c" [6] "chat"⟩,
    .merge chatMoment "c" "R" (.encoded (.object
      [("chat", DecryptedResource.documentEntry [2] [])])),
    .chat ⟨chatMoment, .liveUpdate "c" [8] "chat"⟩]

theorem mergedChat_keepsUp : EachEvent (fun earlier event =>
    BufferKeepsUp chatLaws event (afterStoring chatLaws emptyChatStore earlier)) []
    mergedChat := by
  refine ⟨?_, ?_, ?_, ?_, trivial⟩
  · refine fun chatId => ⟨fun hopen => ?_, fun htouches => htouches.elim⟩
    cases hopen.1
    exact bot_le
  · refine fun chatId => ⟨fun hopen => (by cases hopen.1), fun htouches hnone => ?_⟩
    obtain ⟨rfl, _⟩ := htouches
    cases hnone
  · intro _ _ index
    revert index
    decide +kernel
  · refine fun chatId => ⟨fun hopen => (by cases hopen.1), fun htouches hnone => ?_⟩
    obtain ⟨rfl, _⟩ := htouches
    cases hnone

theorem saves_never_shrink_chats_mergedChat :
    SaveKeeps chatLaws (.chat ⟨chatMoment, .liveUpdate "c" [8] "chat"⟩)
      (afterStoring chatLaws emptyChatStore (mergedChat.take 3))
      (afterStoring chatLaws emptyChatStore mergedChat) :=
  saves_never_shrink_chats chatEnv chatLaws chatEnv_base64 emptyChatStore mergedChat
    (fun _ _ hearlier => mergedChat_keepsUp.of_prefix hearlier) (mergedChat.take 3) _
    List.prefix_rfl

end Osvauld.Libremot
