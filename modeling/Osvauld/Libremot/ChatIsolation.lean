import Osvauld.Data.Run
import Osvauld.Libremot.CoordinatorContent
import Osvauld.Libremot.DataState

namespace Osvauld.Libremot

open Osvauld.Core Data

/-! Runs of the front end. What has been loaded last for a chat and what live
updates have brought for it is noted beside the state. -/

section Ghost

variable {yjs : Yjs} {L : Type*} [SemilatticeSup L] [OrderBot L]
variable (lawful : LawfulYjs yjs L)

structure DataRecord (yjs : Yjs) (L : Type*) where
  state : DataState yjs
  loaded : String → ChatDoc → L
  delivered : String → ChatDoc → L

def DataEvent.loads (event : DataEvent) (state : DataState yjs) :
    Option (String × ChatContent) :=
  if state.userDetails.isSome then
    match event with
    | .switchAnswered index (.ok (some chatContent)) =>
        match state.switches[index]? with
        | some ⟨chatId, .fetching⟩ => some (chatId, chatContent)
        | _ => none
    | .loadChat chatId chatContent => some (chatId, chatContent)
    | _ => none
  else none

def DataEvent.delivers (event : DataEvent) (chatId : String) (which : ChatDoc) : L :=
  match event with
  | .handleLiveUpdates resourceId updates _ docType =>
      if chatId = resourceId ∧ which = ChatCoordinator.remoteDoc docType then
        held lawful.toExactYrs updates
      else ⊥
  | _ => ⊥

def dataStep (event : DataEvent) (record : DataRecord yjs L) : DataRecord yjs L :=
  { state := record.state.step event
    loaded := fun chatId which =>
      match event.loads record.state with
      | some (id, chatContent) =>
          if chatId = id then ChatCoordinator.loadable lawful chatContent which
          else record.loaded chatId which
      | none => record.loaded chatId which
    delivered := fun chatId which =>
      record.delivered chatId which ⊔ event.delivers lawful chatId which }

def afterData (userDetails : Option UserDetails) (clientId : Nat)
    (events : List DataEvent) : DataRecord yjs L :=
  run (dataStep lawful)
    { state := { userDetails, clientId }, loaded := fun _ _ => ⊥
      delivered := fun _ _ => ⊥ }
    events

def ChatContent.bytes (chatContent : ChatContent) : ChatDoc → Bytes
  | .main => chatContent.chat
  | .image => chatContent.imageState

/-- What a step saves for a chat contains what has been loaded for the chat and
every live update that has been delivered for it. -/
def SavesWhole (before after : DataRecord yjs L) : Prop :=
  ∀ saved ∈ after.state.saved.drop before.state.saved.length, ∀ which,
    after.loaded saved.chatId which ⊔ after.delivered saved.chatId which ≤
      held lawful.toExactYrs (saved.content.bytes which)

def EmitsOwn (state : DataState yjs) : Prop :=
  ∀ sync ∈ state.emitted, sync.source = sync.resourceId

/-- A load carries the live updates that have been delivered before. A
coordinator holds those before it handles the next one, which is no update of
the program's own that it lacks. And when a chat has been loaded by a switch and
has unread messages, no other chat is the current one. -/
structure InPlace (event : DataEvent) (before : DataRecord yjs L) : Prop where
  load : ∀ chatId chatContent, event.loads before.state = some (chatId, chatContent) →
    ∀ which, before.delivered chatId which ≤
      ChatCoordinator.loadable lawful chatContent which
  live : ∀ resourceId updates clientId docType coordinator state,
    event = .handleLiveUpdates resourceId updates clientId docType →
    before.state.coordinatorFor resourceId = .ok (coordinator, state) →
    ∀ which, before.delivered resourceId which ⊔
        event.delivers lawful resourceId which ≤
      coordinator.contents lawful which ⊔
        coordinator.arriving lawful updates clientId docType which
  mark : ∀ index chatId coordinator, event = .switchLoaded index →
    before.state.switches[index]? = some ⟨chatId, .loading⟩ →
    before.state.chatCoordinators chatId = some coordinator → coordinator.HasUnread →
    ∀ current, before.state.currentChatId.filter (· ≠ "") = some current →
      current = chatId

end Ghost

section Steps

variable {yjs : Yjs} {L : Type*} [SemilatticeSup L] [OrderBot L]
variable {lawful : LawfulYjs yjs L}

structure Keeps (lawful : LawfulYjs yjs L) (state state' : DataState yjs) : Prop where
  grows : ∀ chatId coordinator', state'.chatCoordinators chatId = some coordinator' →
    ∃ coordinator, state.chatCoordinators chatId = some coordinator ∧
      ∀ which, coordinator.contents lawful which ≤ coordinator'.contents lawful which
  none : ∀ chatId, state'.chatCoordinators chatId = none →
    state.chatCoordinators chatId = none

variable {state' : DataState yjs} (chatId : String) (index : Nat) (resourceId : String)
  (state : DataState yjs)

theorem Keeps.of_eq {state : DataState yjs}
    (hsame : state'.chatCoordinators = state.chatCoordinators) :
    Keeps lawful state state' where
  grows _ coordinator' hcoordinator :=
    ⟨coordinator', hsame ▸ hcoordinator, fun _ => le_rfl⟩
  none _ hnone := hsame ▸ hnone

theorem Keeps.set {state : DataState yjs} {chatId : String}
    {coordinator coordinator' : ChatCoordinator yjs}
    (hcoordinator : state.chatCoordinators chatId = some coordinator)
    (hgrows : ∀ which, coordinator.contents lawful which ≤
      coordinator'.contents lawful which) :
    Keeps lawful state (state.setCoordinator chatId coordinator') where
  grows other found hfound := by
    by_cases hother : other = chatId
    · subst hother
      obtain rfl : coordinator' = found := by
        simpa [DataState.setCoordinator] using hfound
      exact ⟨coordinator, hcoordinator, hgrows⟩
    · exact ⟨found, by simpa [DataState.setCoordinator, hother] using hfound,
        fun _ => le_rfl⟩
  none other hnone := by
    by_cases hother : other = chatId
    · simp [DataState.setCoordinator, hother] at hnone
    · simpa [DataState.setCoordinator, hother] using hnone

theorem Keeps.congr {first first' second second' : DataState yjs}
    (hkeeps : Keeps lawful first second)
    (hfirst : first'.chatCoordinators = first.chatCoordinators)
    (hsecond : second'.chatCoordinators = second.chatCoordinators) :
    Keeps lawful first' second' where
  grows chatId coordinator' hcoordinator := by
    rw [hfirst]
    exact hkeeps.grows chatId coordinator' (hsecond ▸ hcoordinator)
  none chatId hnone := by
    rw [hfirst]
    exact hkeeps.none chatId (hsecond ▸ hnone)

@[simp] theorem chatCoordinators_onUpdate (source docType : String)
    (updates : List Bytes) (state : DataState yjs) :
    (state.onUpdate source docType updates).chatCoordinators =
      state.chatCoordinators := by
  unfold DataState.onUpdate
  split <;> rfl

@[simp] theorem chatCoordinators_setPhase (phase : SwitchPhase) (state : DataState yjs) :
    (state.setPhase index phase).chatCoordinators = state.chatCoordinators := rfl

@[simp] theorem chatCoordinators_saveChat :
    (state.saveChat chatId).chatCoordinators = state.chatCoordinators := by
  unfold DataState.saveChat
  split <;> rfl

theorem loadChat_run (chatContent : ChatContent) (state : DataState yjs) :
    state.userDetails = none ∧ (state.loadChat chatId chatContent).2 = state ∨
      state.userDetails.isSome ∧ ∃ userInfo, ∀ other,
        (state.loadChat chatId chatContent).2.chatCoordinators other =
          if other = chatId then
            some ((ChatCoordinator.new yjs userInfo).loadChat chatContent).2
          else state.chatCoordinators other := by
  unfold DataState.loadChat DataState.createChatCoordinator
  cases huser : state.userDetails with
  | none => exact .inl ⟨rfl, rfl⟩
  | some user =>
      refine .inr ⟨rfl, ⟨state.clientId, user.userId, user.username⟩, fun other => ?_⟩
      by_cases hother : other = chatId <;> simp [DataState.setCoordinator, hother]

/-- What is held for a chat contains what was loaded and delivered for it, and
what was loaded is held. -/
structure Covers (lawful : LawfulYjs yjs L) (record : DataRecord yjs L) : Prop where
  holds : ∀ chatId coordinator,
    record.state.chatCoordinators chatId = some coordinator →
    ∀ which, record.loaded chatId which ⊔ record.delivered chatId which ≤
      coordinator.contents lawful which
  unloaded : ∀ chatId, record.state.chatCoordinators chatId = none →
    ∀ which, record.loaded chatId which = ⊥

variable {record : DataRecord yjs L} {event : DataEvent}

theorem Covers.of_keeps (hcovers : Covers lawful record)
    (hloads : event.loads record.state = none)
    (hdelivers : ∀ chatId which, event.delivers lawful chatId which = ⊥)
    (hkeeps : Keeps lawful record.state (record.state.step event)) :
    Covers lawful (dataStep lawful event record) where
  holds chatId coordinator' hcoordinator' which := by
    obtain ⟨coordinator, hcoordinator, hgrows⟩ :=
      hkeeps.grows chatId coordinator' hcoordinator'
    simp only [dataStep, hloads, hdelivers, sup_of_le_left bot_le]
    exact (hcovers.holds chatId coordinator hcoordinator which).trans (hgrows which)
  unloaded chatId hnone which := by
    simp only [dataStep, hloads]
    exact hcovers.unloaded chatId (hkeeps.none chatId hnone) which

theorem Covers.of_load {chatId : String} {chatContent : ChatContent} {userInfo : UserInfo}
    (hcovers : Covers lawful record)
    (hloads : event.loads record.state = some (chatId, chatContent))
    (hdelivers : ∀ chatId which, event.delivers lawful chatId which = ⊥)
    (hdelivered : ∀ which, record.delivered chatId which ≤
      ChatCoordinator.loadable lawful chatContent which)
    (hstep : ∀ other, (record.state.step event).chatCoordinators other =
      if other = chatId then
        some ((ChatCoordinator.new yjs userInfo).loadChat chatContent).2
      else record.state.chatCoordinators other) :
    Covers lawful (dataStep lawful event record) where
  holds other coordinator hcoordinator which := by
    simp only [dataStep] at hcoordinator
    rw [hstep] at hcoordinator
    simp only [dataStep, hloads, hdelivers, sup_of_le_left bot_le]
    by_cases hother : other = chatId
    · subst hother
      rw [if_pos rfl, Option.some.injEq] at hcoordinator
      rw [if_pos rfl, ← hcoordinator, ChatCoordinator.contents_loadChat,
        ChatCoordinator.contents_new, sup_of_le_right bot_le]
      exact sup_le le_rfl (hdelivered which)
    · rw [if_neg hother] at hcoordinator ⊢
      exact hcovers.holds other coordinator hcoordinator which
  unloaded other hnone which := by
    simp only [dataStep] at hnone
    rw [hstep] at hnone
    have hother : other ≠ chatId := by
      rintro rfl
      simp at hnone
    rw [if_neg hother] at hnone
    simp only [dataStep, hloads, if_neg hother]
    exact hcovers.unloaded other hnone which

theorem coordinatorFor_ok {resourceId : String} {state : DataState yjs}
    {coordinator : ChatCoordinator yjs}
    (hfor : state.coordinatorFor resourceId = .ok (coordinator, state')) :
    (∀ other, state'.chatCoordinators other =
      if other = resourceId then some coordinator else state.chatCoordinators other) ∧
      (state.chatCoordinators resourceId = some coordinator ∨
        state.chatCoordinators resourceId = none) := by
  unfold DataState.coordinatorFor at hfor
  split at hfor
  · next found hfound =>
      cases hfor
      refine ⟨fun other => ?_, .inl hfound⟩
      by_cases hother : other = resourceId
      · simp [hother, hfound]
      · simp [hother]
  · next hnone =>
      split at hfor
      · unfold DataState.createChatCoordinator at hfor
        split at hfor
        · cases hfor
        · cases hfor
          exact ⟨fun _ => rfl, .inr hnone⟩
      · cases hfor

theorem coordinatorFor_error {resourceId message : String} {state : DataState yjs}
    (hfor : state.coordinatorFor resourceId = .error message) :
    state.chatCoordinators resourceId = none := by
  unfold DataState.coordinatorFor at hfor
  split at hfor
  · cases hfor
  · next hnone => exact hnone

theorem handleLiveUpdates_run (lawful : LawfulYjs yjs L) (resourceId docType : String)
    (updates : Bytes) (clientId : Nat) (state : DataState yjs) :
    state.chatCoordinators resourceId = none ∧
        state.handleLiveUpdates resourceId updates clientId docType = state ∨
      ∃ coordinator state', state.coordinatorFor resourceId = .ok (coordinator, state') ∧
        ∃ updated, (∀ other,
          (state.handleLiveUpdates resourceId updates clientId
            docType).chatCoordinators other =
          if other = resourceId then some updated else state.chatCoordinators other) ∧
          ∀ which, updated.contents lawful which = coordinator.contents lawful which ⊔
            coordinator.arriving lawful updates clientId docType which := by
  unfold DataState.handleLiveUpdates
  cases hfor : state.coordinatorFor resourceId with
  | error message => exact .inl ⟨coordinatorFor_error hfor, rfl⟩
  | ok found =>
      obtain ⟨coordinator, state'⟩ := found
      have hstate' := (coordinatorFor_ok hfor).1
      refine .inr ⟨coordinator, state', rfl, ?_⟩
      dsimp only
      rcases coordinator.contents_applyRemoteUpdate lawful updates clientId docType with
        ⟨updated, happly, hcontents⟩ | ⟨message, happly, harriving⟩
      · refine ⟨updated, fun other => ?_, hcontents⟩
        rw [happly]
        by_cases hother : other = resourceId <;>
          simp [DataState.setCoordinator, hother, hstate']
      · refine ⟨coordinator, fun other => ?_, fun which => ?_⟩
        · rw [happly]
          exact hstate' other
        · rw [harriving, sup_of_le_left bot_le]

theorem Covers.of_live {resourceId docType : String} {updates : Bytes} {clientId : Nat}
    (hcovers : Covers lawful record)
    (hinPlace : InPlace lawful
      (.handleLiveUpdates resourceId updates clientId docType) record) :
    Covers lawful (dataStep lawful
      (.handleLiveUpdates resourceId updates clientId docType) record) := by
  have hloads : (DataEvent.handleLiveUpdates resourceId updates clientId docType).loads
      record.state = none := by
    simp [DataEvent.loads]
  have hothers : ∀ other, other ≠ resourceId → ∀ which,
      (DataEvent.handleLiveUpdates resourceId updates clientId docType).delivers lawful
        other which = ⊥ := by
    intro other hother which
    simp [DataEvent.delivers, hother]
  rcases handleLiveUpdates_run lawful resourceId docType updates clientId record.state
    with ⟨hnone, hsame⟩ | ⟨coordinator, state', hfor, updated, hstep, hcontents⟩
  · have hother : ∀ chatId, record.state.chatCoordinators chatId ≠ none →
        chatId ≠ resourceId := by
      rintro chatId hsome rfl
      exact hsome hnone
    refine ⟨fun chatId coordinator hcoordinator which => ?_, fun chatId hmissing which => ?_⟩
    · simp only [dataStep, DataState.step, hsame] at hcoordinator
      have hdelivers := hothers chatId (hother chatId (by simp [hcoordinator])) which
      simp only [dataStep, hloads, hdelivers, sup_of_le_left bot_le]
      exact hcovers.holds chatId coordinator hcoordinator which
    · simp only [dataStep, DataState.step, hsame] at hmissing
      simp only [dataStep, hloads]
      exact hcovers.unloaded chatId hmissing which
  · have hloaded : ∀ which, record.loaded resourceId which ≤
        coordinator.contents lawful which := by
      intro which
      rcases (coordinatorFor_ok hfor).2 with hfound | hnone
      · exact le_sup_left.trans (hcovers.holds resourceId coordinator hfound which)
      · rw [hcovers.unloaded resourceId hnone which]
        exact bot_le
    refine ⟨fun chatId found hfound which => ?_, fun chatId hmissing which => ?_⟩
    · simp only [dataStep, DataState.step, hstep] at hfound
      by_cases hchat : chatId = resourceId
      · subst hchat
        rw [if_pos rfl, Option.some.injEq] at hfound
        rw [← hfound, hcontents]
        simp only [dataStep, hloads]
        exact sup_le ((hloaded which).trans le_sup_left)
          (hinPlace.live chatId updates clientId docType coordinator state' rfl hfor which)
      · rw [if_neg hchat] at hfound
        simp only [dataStep, hloads, hothers chatId hchat, sup_of_le_left bot_le]
        exact hcovers.holds chatId found hfound which
    · simp only [dataStep, DataState.step, hstep] at hmissing
      by_cases hchat : chatId = resourceId
      · simp [hchat] at hmissing
      · rw [if_neg hchat] at hmissing
        simp only [dataStep, hloads]
        exact hcovers.unloaded chatId hmissing which

theorem switchAnswered_run (answer : Except String (Option ChatContent)) (state : DataState yjs) :
    (DataEvent.switchAnswered index answer).loads state = none ∧
        (state.switchAnswered index answer).chatCoordinators = state.chatCoordinators ∨
      ∃ chatId chatContent userInfo,
        (DataEvent.switchAnswered index answer).loads state =
            some (chatId, chatContent) ∧
          ∀ other, (state.switchAnswered index answer).chatCoordinators other =
            if other = chatId then
              some ((ChatCoordinator.new yjs userInfo).loadChat chatContent).2
            else state.chatCoordinators other := by
  unfold DataState.switchAnswered
  split
  · next chatId hcall =>
      cases answer with
      | error message => exact .inl ⟨by simp [DataEvent.loads], rfl⟩
      | ok data =>
          cases data with
          | none => exact .inl ⟨by simp [DataEvent.loads], rfl⟩
          | some chatContent =>
              rcases loadChat_run chatId chatContent
                { state with currentChatId := some chatId } with
                  ⟨huser, hsame⟩ | ⟨huser, userInfo, hload⟩
              · have hcoordinators := congrArg DataState.chatCoordinators hsame
                refine .inl ⟨?_, hcoordinators⟩
                simp [DataEvent.loads, show state.userDetails = none from huser]
              · refine .inr ⟨chatId, chatContent, userInfo, ?_, hload⟩
                simp [DataEvent.loads, show state.userDetails.isSome from huser, hcall]
  · next hcall =>
      refine .inl ⟨?_, rfl⟩
      rcases answer with _ | _ | chatContent
      · simp [DataEvent.loads]
      · simp [DataEvent.loads]
      · simp only [DataEvent.loads]
        split <;> rfl

theorem switchLoaded_keeps : Keeps lawful state (state.switchLoaded index) := by
  unfold DataState.switchLoaded
  split
  · next chatId _ =>
      dsimp only
      split
      · exact .of_eq rfl
      · next coordinator hcoordinator =>
          exact (Keeps.set hcoordinator
            (coordinator.contents_markAllMessagesAsRead lawful)).congr rfl
              (chatCoordinators_onUpdate _ _ _ _)
  · exact .of_eq rfl

theorem sendChatMessage_keeps (message id : String) (timestamp : Int)
    (state : DataState yjs) :
    Keeps lawful state (state.sendChatMessage message id timestamp) := by
  unfold DataState.sendChatMessage
  split
  · exact .of_eq rfl
  · next chatId _ =>
      split
      · exact .of_eq rfl
      · next coordinator hcoordinator =>
          have hadded : Keeps lawful state (state.setCoordinator chatId
              (coordinator.addMessage id timestamp message).1) :=
            .set hcoordinator (coordinator.contents_setMessage lawful id _)
          apply hadded.congr rfl
          rw [chatCoordinators_saveChat, chatCoordinators_onUpdate]

theorem handleDocumentUpdates_keeps (imageUpdates chatUpdates : Option Bytes) (clientId : Nat)
    (state : DataState yjs) :
    Keeps lawful state
      (state.handleDocumentUpdates resourceId imageUpdates chatUpdates clientId) := by
  unfold DataState.handleDocumentUpdates
  split
  · split
    · exact .of_eq rfl
    · next coordinator hcoordinator =>
        split
        · exact .of_eq rfl
        · next withImages himages =>
            have hgrows := ChatCoordinator.contents_le_applyGiven lawful himages
            split
            · exact .set hcoordinator hgrows
            · next updated hupdated =>
                exact .set hcoordinator fun which => (hgrows which).trans
                  (ChatCoordinator.contents_le_applyGiven lawful hupdated which)
  · exact .of_eq rfl

theorem Covers.step (hcovers : Covers lawful record)
    (hinPlace : InPlace lawful event record) :
    Covers lawful (dataStep lawful event record) := by
  cases event with
  | switchChat chatId =>
      refine hcovers.of_keeps (by simp [DataEvent.loads]) (fun _ _ => rfl) (.of_eq ?_)
      simp only [DataState.step, DataState.switchChat]
      split <;> rfl
  | switchAnswered index answer =>
      rcases switchAnswered_run index answer record.state with
        ⟨hloads, hsame⟩ | ⟨chatId, chatContent, userInfo, hloads, hstep⟩
      · exact hcovers.of_keeps hloads (fun _ _ => rfl) (.of_eq hsame)
      · exact hcovers.of_load hloads (fun _ _ => rfl)
          (hinPlace.load chatId chatContent hloads) hstep
  | switchLoaded index =>
      exact hcovers.of_keeps (by simp [DataEvent.loads]) (fun _ _ => rfl)
        (switchLoaded_keeps index record.state)
  | loadChat chatId chatContent =>
      rcases loadChat_run chatId chatContent record.state with
        ⟨huser, hsame⟩ | ⟨huser, userInfo, hstep⟩
      · exact hcovers.of_keeps (by simp [DataEvent.loads, huser]) (fun _ _ => rfl)
          (.of_eq (congrArg DataState.chatCoordinators hsame))
      · have hloads : (DataEvent.loadChat chatId chatContent).loads record.state =
            some (chatId, chatContent) := by
          simp [DataEvent.loads, huser]
        exact hcovers.of_load hloads (fun _ _ => rfl)
          (hinPlace.load chatId chatContent hloads) hstep
  | handleLiveUpdates resourceId updates clientId docType =>
      exact hcovers.of_live hinPlace
  | handleDocumentUpdates resourceId imageUpdates chatUpdates clientId =>
      exact hcovers.of_keeps (by simp [DataEvent.loads]) (fun _ _ => rfl)
        (handleDocumentUpdates_keeps resourceId imageUpdates chatUpdates clientId _)
  | sendChatMessage message id timestamp =>
      exact hcovers.of_keeps (by simp [DataEvent.loads]) (fun _ _ => rfl)
        (sendChatMessage_keeps message id timestamp _)
  | saveChat chatId =>
      exact hcovers.of_keeps (by simp [DataEvent.loads]) (fun _ _ => rfl)
        (.of_eq (chatCoordinators_saveChat chatId _))
  | setChats chats =>
      exact hcovers.of_keeps (by simp [DataEvent.loads]) (fun _ _ => rfl) (.of_eq rfl)

structure Silent (state state' : DataState yjs) : Prop where
  saved : state'.saved = state.saved
  emitted : state'.emitted = state.emitted

theorem Silent.rfl : Silent state state := ⟨by rfl, by rfl⟩

theorem loadChat_silent (chatContent : ChatContent) (state : DataState yjs) :
    Silent state (state.loadChat chatId chatContent).2 := by
  unfold DataState.loadChat DataState.createChatCoordinator
  cases state.userDetails <;> exact ⟨by rfl, by rfl⟩

theorem switchAnswered_silent (answer : Except String (Option ChatContent)) (state : DataState yjs) :
    Silent state (state.switchAnswered index answer) := by
  unfold DataState.switchAnswered
  split
  · next chatId _ =>
      rcases answer with _ | _ | chatContent
      · exact ⟨by rfl, by rfl⟩
      · exact ⟨by rfl, by rfl⟩
      · have hloaded := loadChat_silent chatId chatContent
          { state with currentChatId := some chatId }
        exact ⟨hloaded.saved, hloaded.emitted⟩
  · exact .rfl state

theorem handleLiveUpdates_silent (docType : String) (updates : Bytes) (clientId : Nat)
    (state : DataState yjs) :
    Silent state (state.handleLiveUpdates resourceId updates clientId docType) := by
  have hfor : ∀ coordinator state',
      state.coordinatorFor resourceId = .ok (coordinator, state') → Silent state state' := by
    intro coordinator state' hfor
    unfold DataState.coordinatorFor DataState.createChatCoordinator at hfor
    split at hfor
    · cases hfor
      exact .rfl state
    · split at hfor
      · split at hfor
        · cases hfor
        · cases hfor
          exact ⟨by rfl, by rfl⟩
      · cases hfor
  unfold DataState.handleLiveUpdates
  split
  · exact .rfl state
  · next coordinator state' hcoordinator =>
      have hsilent := hfor coordinator state' hcoordinator
      split
      · exact ⟨hsilent.saved, hsilent.emitted⟩
      · exact hsilent

theorem handleDocumentUpdates_silent (imageUpdates chatUpdates : Option Bytes) (clientId : Nat)
    (state : DataState yjs) :
    Silent state
      (state.handleDocumentUpdates resourceId imageUpdates chatUpdates clientId) := by
  unfold DataState.handleDocumentUpdates
  split
  · split
    · exact .rfl state
    · split
      · exact .rfl state
      · split <;> exact ⟨by rfl, by rfl⟩
  · exact .rfl state

@[simp] theorem saved_onUpdate (source docType : String) (updates : List Bytes)
    (state : DataState yjs) :
    (state.onUpdate source docType updates).saved = state.saved := by
  unfold DataState.onUpdate
  split <;> rfl

def SavesHeld (state state' : DataState yjs) : Prop :=
  ∃ saved, state'.saved = state.saved ++ saved ∧
    ∀ entry ∈ saved, ∃ coordinator,
      state'.chatCoordinators entry.chatId = some coordinator ∧
        entry.content = coordinator.saveChat

theorem SavesHeld.of_eq {state : DataState yjs} (hsame : state'.saved = state.saved) :
    SavesHeld state state' :=
  ⟨[], by simp [hsame], by simp⟩

theorem saveChat_savesHeld : SavesHeld state (state.saveChat chatId) := by
  unfold DataState.saveChat
  split
  · exact .of_eq rfl
  · next coordinator hcoordinator =>
      refine ⟨_, rfl, fun entry hentry => ?_⟩
      obtain rfl := List.mem_singleton.mp hentry
      exact ⟨coordinator, hcoordinator, rfl⟩

theorem step_savesHeld (event : DataEvent) (state : DataState yjs) :
    SavesHeld state (state.step event) := by
  cases event with
  | switchChat chatId =>
      apply SavesHeld.of_eq
      simp only [DataState.step, DataState.switchChat]
      split <;> rfl
  | switchAnswered index answer =>
      exact .of_eq (switchAnswered_silent index answer state).saved
  | switchLoaded index =>
      apply SavesHeld.of_eq
      simp only [DataState.step, DataState.switchLoaded]
      split
      · split
        · rfl
        · exact saved_onUpdate _ _ _ _
      · rfl
  | loadChat chatId chatContent =>
      exact .of_eq (loadChat_silent chatId chatContent state).saved
  | handleLiveUpdates resourceId updates clientId docType =>
      exact .of_eq (handleLiveUpdates_silent resourceId docType updates clientId state).saved
  | handleDocumentUpdates resourceId imageUpdates chatUpdates clientId =>
      exact .of_eq (handleDocumentUpdates_silent resourceId imageUpdates chatUpdates
        clientId state).saved
  | sendChatMessage message id timestamp =>
      simp only [DataState.step, DataState.sendChatMessage]
      split
      · exact .of_eq rfl
      · next chatId _ =>
          split
          · exact .of_eq rfl
          · next coordinator _ =>
              obtain ⟨saved, hsaved, hheld⟩ := saveChat_savesHeld chatId
                ((state.setCoordinator chatId
                  (coordinator.addMessage id timestamp message).1).onUpdate chatId "chat"
                    [(coordinator.addMessage id timestamp message).2])
              rw [saved_onUpdate] at hsaved
              exact ⟨saved, hsaved, hheld⟩
  | saveChat chatId => exact saveChat_savesHeld chatId state
  | setChats chats => exact .of_eq rfl

theorem EmitsOwn.onUpdate {source docType : String} {updates : List Bytes}
    {state : DataState yjs} (howns : EmitsOwn state)
    (hcurrent : updates = [] ∨
      ∀ current, state.currentChatId.filter (· ≠ "") = some current →
        current = source) :
    EmitsOwn (state.onUpdate source docType updates) := by
  unfold DataState.onUpdate
  split
  · exact howns
  · next current hfound =>
      intro sync hsync
      rcases List.mem_append.mp hsync with hbefore | hnew
      · exact howns sync hbefore
      · obtain ⟨update, hupdate, rfl⟩ := List.mem_map.mp hnew
        rcases hcurrent with rfl | hcurrent
        · cases hupdate
        · exact (hcurrent current hfound).symm

theorem EmitsOwn.of_silent {state : DataState yjs} (howns : EmitsOwn state)
    (hsilent : Silent state state') : EmitsOwn state' := by
  unfold EmitsOwn
  rw [hsilent.emitted]
  exact howns

theorem EmitsOwn.saveChat {state : DataState yjs} {chatId : String}
    (howns : EmitsOwn state) : EmitsOwn (state.saveChat chatId) := by
  unfold DataState.saveChat
  split <;> exact howns

theorem EmitsOwn.step (howns : EmitsOwn record.state)
    (hinPlace : InPlace lawful event record) : EmitsOwn (record.state.step event) := by
  cases event with
  | switchChat chatId =>
      simp only [DataState.step, DataState.switchChat]
      split <;> exact howns
  | switchAnswered index answer =>
      exact howns.of_silent (switchAnswered_silent index answer record.state)
  | switchLoaded index =>
      simp only [DataState.step, DataState.switchLoaded]
      split
      · next chatId hcall =>
          split
          · exact howns
          · next coordinator hcoordinator =>
              refine EmitsOwn.onUpdate howns ?_
              by_cases hunread : coordinator.HasUnread
              · exact .inr (hinPlace.mark index chatId coordinator rfl hcall hcoordinator
                  hunread)
              · rw [ChatCoordinator.markAllMessagesAsRead_of_read hunread]
                exact .inl rfl
      · exact howns
  | loadChat chatId chatContent =>
      exact howns.of_silent (loadChat_silent chatId chatContent record.state)
  | handleLiveUpdates resourceId updates clientId docType =>
      exact howns.of_silent
        (handleLiveUpdates_silent resourceId docType updates clientId record.state)
  | handleDocumentUpdates resourceId imageUpdates chatUpdates clientId =>
      exact howns.of_silent (handleDocumentUpdates_silent resourceId imageUpdates
        chatUpdates clientId record.state)
  | sendChatMessage message id timestamp =>
      simp only [DataState.step, DataState.sendChatMessage]
      split
      · exact howns
      · next chatId hcurrent =>
          split
          · exact howns
          · next coordinator _ =>
              refine EmitsOwn.saveChat (EmitsOwn.onUpdate howns (.inr ?_))
              intro current hfound
              exact Option.some.inj (hfound.symm.trans hcurrent)
  | saveChat chatId => exact howns.saveChat
  | setChats chats => exact howns

theorem Covers.savesWhole (hafter : Covers lawful (dataStep lawful event record)) :
    SavesWhole lawful record (dataStep lawful event record) := by
  intro entry hentry which
  obtain ⟨saved, hsaved, hheld⟩ := step_savesHeld event record.state
  have hnew : entry ∈ saved := by
    simpa [dataStep, hsaved] using hentry
  obtain ⟨coordinator, hcoordinator, hcontent⟩ := hheld entry hnew
  refine (hafter.holds entry.chatId coordinator hcoordinator which).trans ?_
  rw [hcontent]
  cases which <;> simp [ChatCoordinator.contents, ChatCoordinator.saveChat,
    ChatContent.bytes, ChatCoordinator.doc]

end Steps

def peerMessage (readBy : List String) : ChatMessage :=
  { id := "m", authorId := "P", authorName := "Peer", content := "hello", timestamp := 0
    messageType := .text, imageId := none, readBy := some readBy }

def bitsMessages (doc : UInt8) : List (String × ChatMessage) :=
  if doc &&& 1 = 0 then []
  else if doc &&& 2 = 0 then [("m", peerMessage ["P"])]
  else [("m", peerMessage ["P", "R"])]

def bitsSetMessage (doc : UInt8) (messageId : String) : UInt8 × Bytes :=
  if messageId = "m" then (doc ||| 2, [2]) else (doc ||| 128, [128])

def Yjs.bits : Yjs :=
  { toYrs := Yrs.bits, messages := bitsMessages
    setMessage := fun doc messageId _ => bitsSetMessage doc messageId }

theorem updateBits_le_or (doc added : UInt8) :
    updateBits doc ≤ updateBits (doc ||| added) := by
  rw [updateBits_or]
  exact le_sup_left

def Yjs.lawfulBits : LawfulYjs Yjs.bits (Fin 8 → Bool) where
  toExactYrs := Yrs.exactBits
  setMessage_grows doc messageId _ := by
    change updateBits doc ≤ updateBits (bitsSetMessage doc messageId).1
    unfold bitsSetMessage
    split <;> exact updateBits_le_or doc _

def reader : UserDetails := { userId := "R", username := "Reader" }

/-- The other chat's credential arrives before the first chat's messages are
marked. -/
def crossedSwitches : List DataEvent :=
  [.switchChat (some "a"), .switchChat (some "b"),
    .switchAnswered 0 (.ok (some { chat := [1], imageState := [] })),
    .switchAnswered 1 (.ok (some { chat := [4], imageState := [] })), .switchLoaded 0]

def reloadedChat : List DataEvent :=
  [.switchChat (some "a"),
    .switchAnswered 0 (.ok (some { chat := [4], imageState := [] })), .switchLoaded 0,
    .switchChat (some "a"), .handleLiveUpdates "a" [8] 7 "chat",
    .switchAnswered 1 (.ok (some { chat := [4], imageState := [] })), .switchLoaded 1,
    .sendChatMessage "hi" "r-1" 0]

def calmChat : List DataEvent :=
  [.switchChat (some "a"),
    .switchAnswered 0 (.ok (some { chat := [1], imageState := [] })), .switchLoaded 0,
    .handleLiveUpdates "a" [8] 7 "chat", .sendChatMessage "hi" "r-1" 0]

theorem calmChat_inPlace : EachEvent (fun earlier event =>
    InPlace Yjs.lawfulBits event (afterData Yjs.lawfulBits (some reader) 3 earlier)) []
    calmChat := by
  refine ⟨?_, ?_, ?_, ?_, ?_, trivial⟩
  · exact ⟨by simp [DataEvent.loads], by simp, by simp⟩
  · refine ⟨?_, by simp, by simp⟩
    intro chatId chatContent hloads which
    exact bot_le
  · refine ⟨by simp [DataEvent.loads], by simp, ?_⟩
    intro index chatId coordinator hevent hcall _ _ current hcurrent
    cases hevent
    cases hcall
    cases hcurrent
    rfl
  · refine ⟨by simp [DataEvent.loads], ?_, by simp⟩
    intro resourceId updates clientId docType coordinator state hevent hfor which
    cases hevent
    cases hfor
    intro bit
    revert bit
    cases which <;> decide +kernel
  · exact ⟨by simp [DataEvent.loads], by simp, by simp⟩

end Osvauld.Libremot
