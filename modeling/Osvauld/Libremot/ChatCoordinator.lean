import Mathlib.Data.List.Sort
import Osvauld.Libremot.ChatContent

namespace Osvauld.Libremot

open Osvauld.Core

/-! The documents of a chat in the front end. -/

inductive MessageType where
  | text
  | image
deriving DecidableEq, Repr

structure ChatMessage where
  id : String
  authorId : String
  authorName : String
  content : String
  timestamp : Int
  messageType : MessageType
  imageId : Option String
  readBy : Option (List String)
deriving DecidableEq, Repr

/-- The `yjs` library: it understands the updates of `yrs`, and keeps a map of
messages in a document. -/
structure Yjs extends Yrs where
  messages : Doc → List (String × ChatMessage)
  /-- The second component is the update that the handlers are called with. -/
  setMessage : Doc → String → ChatMessage → Doc × Bytes

structure UserInfo where
  id : Nat
  userId : String
  name : String
deriving DecidableEq, Repr

structure ChatContent where
  chat : Bytes
  imageState : Bytes
deriving DecidableEq, Repr

structure ChatCoordinator (yjs : Yjs) where
  chatDoc : yjs.Doc
  imageDoc : yjs.Doc
  userInfo : UserInfo

namespace ChatCoordinator

variable {yjs : Yjs}

def new (yjs : Yjs) (userInfo : UserInfo) : ChatCoordinator yjs :=
  { chatDoc := yjs.new, imageDoc := yjs.new, userInfo }

def doc (coordinator : ChatCoordinator yjs) : ChatDoc → yjs.Doc
  | .main => coordinator.chatDoc
  | .image => coordinator.imageDoc

/-- The updates of loading are for no handler. An array that cannot be applied
ends the load. -/
def loadChat (chatContent : ChatContent) (coordinator : ChatCoordinator yjs) :
    Except String Unit × ChatCoordinator yjs :=
  match yjs.applyUpdateV2 coordinator.chatDoc chatContent.chat with
  | .error message => (.error message, coordinator)
  | .ok chatDoc =>
      match yjs.applyUpdateV2 coordinator.imageDoc chatContent.imageState with
      | .error message => (.error message, { coordinator with chatDoc })
      | .ok imageDoc => (.ok (), { coordinator with chatDoc, imageDoc })

def remoteDoc (docType : String) : ChatDoc :=
  if docType = "chat" then .main else .image

/-- The updates of a peer are for no handler, and the program's own are left. -/
def applyRemoteUpdate (update : Bytes) (sender : Nat) (docType : String)
    (coordinator : ChatCoordinator yjs) : Except String (ChatCoordinator yjs) :=
  if sender = coordinator.userInfo.id then .ok coordinator
  else
    match remoteDoc docType with
    | .main => do
        let chatDoc ← yjs.applyUpdate coordinator.chatDoc update
        return { coordinator with chatDoc }
    | .image => do
        let imageDoc ← yjs.applyUpdate coordinator.imageDoc update
        return { coordinator with imageDoc }

def applyGiven (update : Option Bytes) (sender : Nat) (docType : String)
    (coordinator : ChatCoordinator yjs) : Except String (ChatCoordinator yjs) :=
  match update with
  | none => .ok coordinator
  | some update => coordinator.applyRemoteUpdate update sender docType

def setMessage (messageId : String) (message : ChatMessage)
    (coordinator : ChatCoordinator yjs) : ChatCoordinator yjs × Bytes :=
  let set := yjs.setMessage coordinator.chatDoc messageId message
  ({ coordinator with chatDoc := set.1 }, set.2)

def addMessage (id : String) (timestamp : Int) (content : String)
    (coordinator : ChatCoordinator yjs) : ChatCoordinator yjs × Bytes :=
  coordinator.setMessage id
    { id, authorId := coordinator.userInfo.userId
      authorName := coordinator.userInfo.name, content, timestamp
      messageType := .text, imageId := none
      readBy := some [coordinator.userInfo.userId] }

def getMessages (coordinator : ChatCoordinator yjs) : List ChatMessage :=
  ((yjs.messages coordinator.chatDoc).map Prod.snd).insertionSort
    fun first second => first.timestamp ≤ second.timestamp

def markMessageAsRead (messageId : String) (coordinator : ChatCoordinator yjs) :
    ChatCoordinator yjs × List Bytes :=
  match (yjs.messages coordinator.chatDoc).lookup messageId with
  | none => (coordinator, [])
  | some message =>
      let readBy := message.readBy.getD []
      if coordinator.userInfo.userId ∈ readBy then (coordinator, [])
      else
        let set := coordinator.setMessage messageId
          { message with
            readBy := some (readBy ++ [coordinator.userInfo.userId]) }
        (set.1, [set.2])

def markAllMessagesAsRead (coordinator : ChatCoordinator yjs) :
    ChatCoordinator yjs × List Bytes :=
  coordinator.getMessages.foldl
    (fun marked message =>
      if message.authorId = coordinator.userInfo.userId then marked
      else
        let next := marked.1.markMessageAsRead message.id
        (next.1, marked.2 ++ next.2))
    (coordinator, [])

def saveChat (coordinator : ChatCoordinator yjs) : ChatContent :=
  { chat := yjs.stateAsUpdate coordinator.chatDoc
    imageState := yjs.stateAsUpdate coordinator.imageDoc }

end ChatCoordinator

end Osvauld.Libremot
