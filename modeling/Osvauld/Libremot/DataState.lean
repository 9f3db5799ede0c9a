import Osvauld.Libremot.ChatCoordinator

namespace Osvauld.Libremot

open Osvauld.Core

/-! The state of the front end, and its asynchronous functions cut at the points
where they wait. -/

structure UserDetails where
  userId : String
  username : String
deriving DecidableEq, Repr

/-- An update that is emitted to the backend. The source is no part of the
event: it is the chat whose coordinator has made the update. -/
structure SyncUpdate where
  update : Bytes
  clientId : Nat
  resourceId : String
  docType : String
  source : String
deriving DecidableEq, Repr

structure SavedContent where
  chatId : String
  content : ChatContent
deriving DecidableEq, Repr

inductive SwitchPhase where
  | fetching
  | loading
  | finished
deriving DecidableEq, Repr

structure SwitchCall where
  chatId : String
  phase : SwitchPhase
deriving DecidableEq, Repr

structure DataState (yjs : Yjs) where
  chats : List String := []
  currentChatId : Option String := none
  chatCoordinators : String → Option (ChatCoordinator yjs) := fun _ => none
  userDetails : Option UserDetails
  clientId : Nat
  switches : List SwitchCall := []
  emitted : List SyncUpdate := []
  saved : List SavedContent := []

namespace DataState

variable {yjs : Yjs}

def setCoordinator (chatId : String) (coordinator : ChatCoordinator yjs)
    (state : DataState yjs) : DataState yjs :=
  { state with
    chatCoordinators := fun id =>
      if id = chatId then some coordinator else state.chatCoordinators id }

def onUpdate (source docType : String) (updates : List Bytes) (state : DataState yjs) :
    DataState yjs :=
  match state.currentChatId.filter (· ≠ "") with
  | none => state
  | some resourceId =>
      { state with
        emitted := state.emitted ++ updates.map fun update =>
          { update, clientId := state.clientId, resourceId, docType, source } }

def createChatCoordinator (chatId : String) (state : DataState yjs) :
    Except String (ChatCoordinator yjs × DataState yjs) :=
  match state.userDetails with
  | none => .error "User details not available for coordinator creation"
  | some user =>
      let coordinator := .new yjs
        { id := state.clientId, userId := user.userId, name := user.username }
      .ok (coordinator, state.setCoordinator chatId coordinator)

def loadChat (chatId : String) (chatContent : ChatContent) (state : DataState yjs) :
    Except String Unit × DataState yjs :=
  match state.createChatCoordinator chatId with
  | .error message => (.error message, state)
  | .ok (coordinator, state) =>
      let loaded := coordinator.loadChat chatContent
      (loaded.1, state.setCoordinator chatId loaded.2)

def setPhase (index : Nat) (phase : SwitchPhase) (state : DataState yjs) :
    DataState yjs :=
  { state with
    switches := state.switches.modify index fun call => { call with phase } }

def switchChat (chatId : Option String) (state : DataState yjs) : DataState yjs :=
  match chatId.filter (· ≠ "") with
  | some chatId => { state with switches := state.switches ++ [⟨chatId, .fetching⟩] }
  | none => { state with currentChatId := none }

def switchAnswered (index : Nat) (answer : Except String (Option ChatContent))
    (state : DataState yjs) : DataState yjs :=
  match state.switches[index]? with
  | some ⟨chatId, .fetching⟩ =>
      match answer with
      | .error _ => state.setPhase index .finished
      | .ok data =>
          let state := { state with currentChatId := some chatId }
          match data with
          | none => state.setPhase index .finished
          | some chatContent =>
              let loaded := state.loadChat chatId chatContent
              loaded.2.setPhase index
                (match loaded.1 with
                  | .ok () => .loading
                  | .error _ => .finished)
  | _ => state

def switchLoaded (index : Nat) (state : DataState yjs) : DataState yjs :=
  match state.switches[index]? with
  | some ⟨chatId, .loading⟩ =>
      let state := state.setPhase index .finished
      match state.chatCoordinators chatId with
      | none => state
      | some coordinator =>
          let marked := coordinator.markAllMessagesAsRead
          (state.setCoordinator chatId marked.1).onUpdate chatId "chat" marked.2
  | _ => state

def coordinatorFor (resourceId : String) (state : DataState yjs) :
    Except String (ChatCoordinator yjs × DataState yjs) :=
  match state.chatCoordinators resourceId with
  | some coordinator => .ok (coordinator, state)
  | none =>
      if resourceId ∈ state.chats then state.createChatCoordinator resourceId
      else .error "Received update for unknown chat"

def handleLiveUpdates (resourceId : String) (updates : Bytes) (clientId : Nat)
    (docType : String) (state : DataState yjs) : DataState yjs :=
  match state.coordinatorFor resourceId with
  | .error _ => state
  | .ok (coordinator, state) =>
      match coordinator.applyRemoteUpdate updates clientId docType with
      | .ok coordinator => state.setCoordinator resourceId coordinator
      | .error _ => state

/-- The content is encoded before the call waits for the first time. -/
def saveChat (chatId : String) (state : DataState yjs) : DataState yjs :=
  match state.chatCoordinators chatId with
  | none => state
  | some coordinator =>
      { state with saved := state.saved ++ [⟨chatId, coordinator.saveChat⟩] }

def sendChatMessage (message id : String) (timestamp : Int) (state : DataState yjs) :
    DataState yjs :=
  match state.currentChatId.filter (· ≠ "") with
  | none => state
  | some chatId =>
      match state.chatCoordinators chatId with
      | none => state
      | some coordinator =>
          let added := coordinator.addMessage id timestamp message
          ((state.setCoordinator chatId added.1).onUpdate chatId "chat"
            [added.2]).saveChat chatId

/-- The updates of the open chat that the backend passes on; the first that
cannot be applied ends the handler. -/
def handleDocumentUpdates (resourceId : String) (imageUpdates chatUpdates : Option Bytes)
    (clientId : Nat) (state : DataState yjs) : DataState yjs :=
  if state.currentChatId = some resourceId then
    match state.chatCoordinators resourceId with
    | none => state
    | some coordinator =>
        match coordinator.applyGiven imageUpdates clientId "image_state" with
        | .error _ => state
        | .ok withImages =>
            match withImages.applyGiven chatUpdates clientId "chat" with
            | .error _ => state.setCoordinator resourceId withImages
            | .ok updated => state.setCoordinator resourceId updated
  else state

end DataState

inductive DataEvent where
  | switchChat (chatId : Option String)
  | switchAnswered (index : Nat) (answer : Except String (Option ChatContent))
  | switchLoaded (index : Nat)
  | loadChat (chatId : String) (chatContent : ChatContent)
  | handleLiveUpdates (resourceId : String) (updates : Bytes) (clientId : Nat)
      (docType : String)
  | handleDocumentUpdates (resourceId : String)
      (imageUpdates chatUpdates : Option Bytes) (clientId : Nat)
  | sendChatMessage (message id : String) (timestamp : Int)
  | saveChat (chatId : String)
  | setChats (chats : List String)

def DataState.step {yjs : Yjs} (event : DataEvent) (state : DataState yjs) :
    DataState yjs :=
  match event with
  | .switchChat chatId => state.switchChat chatId
  | .switchAnswered index answer => state.switchAnswered index answer
  | .switchLoaded index => state.switchLoaded index
  | .loadChat chatId chatContent => (state.loadChat chatId chatContent).2
  | .handleLiveUpdates resourceId updates clientId docType =>
      state.handleLiveUpdates resourceId updates clientId docType
  | .handleDocumentUpdates resourceId imageUpdates chatUpdates clientId =>
      state.handleDocumentUpdates resourceId imageUpdates chatUpdates clientId
  | .sendChatMessage message id timestamp => state.sendChatMessage message id timestamp
  | .saveChat chatId => state.saveChat chatId
  | .setChats chats => { state with chats }

end Osvauld.Libremot
