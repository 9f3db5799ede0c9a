import Mathlib.Data.Finset.Dedup
import Mathlib.Data.Finset.Empty
import Osvauld.Data.LastWriter
import Osvauld.Persistance.RepositoryContext

namespace Osvauld.Libremot

open Osvauld.Core Data Persistance

namespace ChatPreviewGenerator

/-! The messages of a chat, what is shown of them before the chat is opened, and how
they are marked as read. -/

inductive Any where
  | null
  | undefined
  | bool (value : Bool)
  | number (asI64 : Int)
  | bigInt (value : Int)
  | string (value : String)
  | buffer (value : Bytes)
  | array (items : List Any)
  | map (fields : List (String × Any))

namespace Any

def get (fields : List (String × Any)) (key : String) : Option Any :=
  (fields.find? fun field => field.1 = key).map fun field => field.2

def insert (fields : List (String × Any)) (key : String) (value : Any) :
    List (String × Any) :=
  (key, value) :: fields.filter fun field => field.1 ≠ key

@[simp] theorem get_insert_self (fields : List (String × Any)) (key : String) (value : Any) :
    get (insert fields key value) key = some value := by
  simp [get, insert]

def asString : Any → Option String
  | string value => some value
  | _ => none

@[simp] theorem filterMap_asString (texts : List String) :
    (texts.map string).filterMap asString = texts := by
  induction texts with
  | nil => rfl
  | cons text rest ih => simp [asString, ih]

end Any

inductive Out where
  | any (value : Any)
  | shared (json : Any)

def Out.toJson : Out → Any
  | any value => value
  | shared json => json

structure ChatMessage where
  id : String
  authorId : String
  authorName : String
  content : String
  timestamp : Int
  messageType : String
  imageId : Option String
  readBy : Option (List String)

structure ChatPreviewData where
  lastMessage : String
  lastMessageTime : Int
  participants : Finset String
  participantIds : Finset String
  unreadCount : Int

def ChatPreviewData.none : ChatPreviewData :=
  { lastMessage := "", lastMessageTime := 0, participants := ∅, participantIds := ∅
    unreadCount := 0 }

abbrev ChatMessages (Stamp : Type) := LastWriterMap String Out Stamp

/-- The functions of `yrs` on documents that are chats, and the bytes of its updates. -/
structure ChatYrs (Stamp : Type) where
  Update : Type
  isEmpty : Update → Bool
  applyUpdateV2 : ChatMessages Stamp → Update → Except String (ChatMessages Stamp)
  encodeStateAsUpdateV2 : ChatMessages Stamp → Update

/-- In the maps of `yrs` the last writer of a key wins. -/
structure ChatYrs.Lawful {Stamp : Type} [LinearOrder Stamp] (yrs : ChatYrs Stamp) : Prop where
  applyUpdateV2_encode : ∀ own received : ChatMessages Stamp, ∃ merged,
    yrs.applyUpdateV2 own (yrs.encodeStateAsUpdateV2 received) = .ok merged ∧
      LastWriterMap.Merges own received merged
  isEmpty_encode : ∀ messages, yrs.isEmpty (yrs.encodeStateAsUpdateV2 messages) = false

def ChatYrs.plain (Stamp : Type) [LinearOrder Stamp] : ChatYrs Stamp where
  Update := ChatMessages Stamp
  isEmpty := fun _ => false
  applyUpdateV2 := fun own received => .ok (own.merge received)
  encodeStateAsUpdateV2 := id

theorem ChatYrs.lawful_plain (Stamp : Type) [LinearOrder Stamp] : (plain Stamp).Lawful where
  applyUpdateV2_encode := fun own received => ⟨own.merge received, rfl, own.merges_merge received⟩
  isEmpty_encode := fun _ => rfl

def readers (fields : List (String × Any)) : Option (List String) :=
  match Any.get fields "readBy" with
  | some (.array items) => some (items.filterMap Any.asString)
  | _ => none

def requireString (fields : List (String × Any)) (key missing : String) :
    Except String String :=
  match Any.get fields key with
  | some (.string text) => .ok text
  | _ => .error missing

def requireTimestamp (fields : List (String × Any)) : Except String Int :=
  match Any.get fields "timestamp" with
  | some (.number n) => .ok n
  | some (.bigInt n) => .ok n
  | _ => .error "Missing timestamp"

def parseMessage (id : String) (fields : List (String × Any)) :
    Except String ChatMessage := do
  let authorId ← requireString fields "authorId" "Missing authorId"
  let authorName ← requireString fields "authorName" "Missing authorName"
  let content ← requireString fields "content" "Missing content"
  let timestamp ← requireTimestamp fields
  let messageType := match Any.get fields "type" with
    | some (.string text) => text
    | _ => "text"
  let imageId := match Any.get fields "imageId" with
    | some (.string text) => some text
    | _ => none
  return { id, authorId, authorName, content, timestamp, messageType, imageId
           readBy := readers fields }

theorem parseMessage_ok {id : String} {fields : List (String × Any)} {message : ChatMessage}
    (hparse : parseMessage id fields = .ok message) :
    message.id = id ∧ message.readBy = readers fields := by
  unfold parseMessage at hparse
  obtain ⟨_, -, hparse⟩ := bind_eq_ok.mp hparse
  obtain ⟨_, -, hparse⟩ := bind_eq_ok.mp hparse
  obtain ⟨_, -, hparse⟩ := bind_eq_ok.mp hparse
  obtain ⟨_, -, hparse⟩ := bind_eq_ok.mp hparse
  cases hparse
  exact ⟨rfl, rfl⟩

section Preview

variable {Stamp : Type}

def parseEntries (messages : ChatMessages Stamp) :
    List String → Except String (List ChatMessage)
  | [] => .ok []
  | key :: rest =>
      match (messages.get key).map Out.toJson with
      | some (.map fields) => do
          let message ← parseMessage key fields
          let others ← parseEntries messages rest
          return message :: others
      | _ => parseEntries messages rest

def extractMessages (messages : ChatMessages Stamp) : Except String (List ChatMessage) := do
  let found ← parseEntries messages messages.order
  return found.mergeSort fun message other => message.timestamp ≤ other.timestamp

def lastMessage (messages : List ChatMessage) : Option ChatMessage :=
  messages.foldl (fun last message =>
    match last with
    | none => some message
    | some last => if last.timestamp ≤ message.timestamp then some message else some last) none

def isUnread (currentUserId : String) (message : ChatMessage) : Bool :=
  message.authorId ≠ currentUserId &&
    !(match message.readBy with
      | some readers => readers.contains currentUserId
      | none => false)

def previewOf (messages : List ChatMessage) (currentUserId : String) : ChatPreviewData :=
  match lastMessage messages with
  | none => .none
  | some last =>
      let others := messages.filter fun message => message.authorId ≠ currentUserId
      { lastMessage := last.content
        lastMessageTime := last.timestamp
        participants := (others.map fun message => message.authorName).toFinset
        participantIds := (others.map fun message => message.authorId).toFinset
        unreadCount := asI32 (messages.countP (isUnread currentUserId)) }

variable (yrs : ChatYrs Stamp)

def loadChat (chatState : yrs.Update) : Except String (ChatMessages Stamp) :=
  (yrs.applyUpdateV2 .empty chatState).mapError fun message =>
    "Failed to apply chat state: " ++ message

def generateChatPreview (chatState : yrs.Update) (currentUserId : String) :
    Except String ChatPreviewData :=
  if yrs.isEmpty chatState then .ok .none
  else do
    let chatDoc ← loadChat yrs chatState
    let messages ← extractMessages chatDoc
    return previewOf messages currentUserId

/-- The whole message is written anew; a message that is a shared type is left as it
is. -/
def markRead (stamp : Stamp) (messageId userId : String) (messages : ChatMessages Stamp) :
    ChatMessages Stamp :=
  match messages.get messageId with
  | some (.any (.map fields)) =>
      let readBy := (readers fields).getD []
      if userId ∈ readBy then messages
      else messages.insert messageId stamp (.any (.map (Any.insert fields "readBy"
        (.array ((readBy ++ [userId]).map .string)))))
  | _ => messages

def markMessageRead (stamp : Stamp) (chatState : yrs.Update) (messageId userId : String) :
    Except String yrs.Update := do
  let chatDoc ← if yrs.isEmpty chatState then .ok .empty else loadChat yrs chatState
  return yrs.encodeStateAsUpdateV2 (markRead stamp messageId userId chatDoc)

end Preview

end ChatPreviewGenerator

end Osvauld.Libremot
