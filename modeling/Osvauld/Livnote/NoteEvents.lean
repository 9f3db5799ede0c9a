import Osvauld.Livnote.DocHandles
import Osvauld.Network.P2P.PeerConnection

namespace Osvauld.Livnote

open Osvauld.Core Data Network

/-! The application's handlers of what the editor and the connections tell it,
one step for each lock, with what they send to peers and tell the front end. -/

inductive NoteMessage where
  | liveEdit (message : LiveEditMessage)
  | liveUpdates (resourceId : String) (updates : Bytes) (docType : String)
  | documentUpdates (resourceId : String) (updates : JsonText)
  /-- A preview of the resource for the list of the front end. -/
  | resourceUpdate (resourceId : String)

structure UpdatePayload where
  updateBytes : Bytes
  resourceId : String
  clientId : Nat
  docType : String
deriving DecidableEq, Repr

abbrev NoteHandler (yrs : Yrs) := HandleTask yrs (List NoteMessage)

variable {yrs : Yrs}

namespace NoteHandler

def getCurrentNote : HandleTask yrs (Option String) :=
  Program.read fun note => .ok note.noteId

def isCurrentNote (resourceId : String) : HandleTask yrs Bool := do
  let currentNote ← getCurrentNote
  return currentNote == some resourceId

def forCurrentNote (resourceId : String) (task : NoteHandler yrs) : NoteHandler yrs := do
  let isCurrent ← isCurrentNote resourceId
  if isCurrent then task else return []

def orNothing (task : NoteHandler yrs) : NoteHandler yrs := do
  let outcome ← task.attempt
  match outcome with
  | .ok messages => return messages
  | .error _ => return []

def changeConnections (change : List String → List String) : HandleTask yrs PUnit :=
  Program.write fun note =>
    .ok { note with activeConnections := change note.activeConnections }

def addActiveConnection (connectionId : String) : HandleTask yrs PUnit :=
  changeConnections fun active =>
    if connectionId ∈ active then active else active ++ [connectionId]

/-- The updates go to the editor under the id of the note that is open, and not
of the one they are for. -/
def handleUpdateEvent (resourceId : String) (updates : JsonText) : NoteHandler yrs := do
  let currentNote ← getCurrentNote
  match currentNote with
  | some currentResourceId => return [.documentUpdates currentResourceId updates]
  | none => return [.resourceUpdate resourceId]

def handleEditingEvent (resourceId : String) (updates : Bytes) (docType : String) :
    NoteHandler yrs :=
  forCurrentNote resourceId do
    HandleTask.applyUpdate updates docType
    return [.liveUpdates resourceId updates docType]

def handleLiveEditConnected : NoteHandler yrs := do
  let currentNote ← getCurrentNote
  match currentNote with
  | some resourceId => return [.liveEdit (.documentCheck resourceId)]
  | none => return []

def handleDocumentCheck (resourceId : String) : NoteHandler yrs := do
  let isMatch ← isCurrentNote resourceId
  if isMatch then
    orNothing do
      let stateVectors ← HandleTask.getStateVectors
      return [.liveEdit (.stateVectorExchange resourceId stateVectors)]
  else return [.liveEdit .notSameDocument]

def handleDocumentUpdateRequest (resourceId : String) (stateVectors : JsonText) :
    NoteHandler yrs :=
  forCurrentNote resourceId <| orNothing do
    let peerUpdates ← HandleTask.generateUpdatesForPeer stateVectors
    return [.liveEdit (.updateExchange resourceId peerUpdates)]

def handleDocumentProcessUpdate (resourceId connectionId : String)
    (remoteUpdates : JsonText) : NoteHandler yrs :=
  forCurrentNote resourceId <| orNothing do
    let peerUpdates ← HandleTask.applyUpdatesAndGenerateDiff remoteUpdates
    addActiveConnection connectionId
    let told ← handleUpdateEvent resourceId remoteUpdates
    return told ++ [.liveEdit (.updateExchangeResponse resourceId peerUpdates)]

def handleDocumentProcessUpdateResponse (resourceId connectionId : String)
    (updates : JsonText) : NoteHandler yrs :=
  forCurrentNote resourceId do
    let _ ← (HandleTask.applyPeerUpdates updates).attempt
    addActiveConnection connectionId
    match updates with
    | .malformed "" => return []
    | updates => handleUpdateEvent resourceId updates

def handleDocumentChangedEvent (connectionId : String) : NoteHandler yrs := do
  changeConnections fun active => active.erase connectionId
  return []

def handleP2PEvent : P2PEvent → NoteHandler yrs
  | .liveEditConnected _ => handleLiveEditConnected
  | .documentCheck resourceId _ => handleDocumentCheck resourceId
  | .updateRequest resourceId _ stateVectors _ =>
      handleDocumentUpdateRequest resourceId stateVectors
  | .processUpdate resourceId connectionId updates _ =>
      handleDocumentProcessUpdate resourceId connectionId updates
  | .processUpdateResponse resourceId connectionId updates _ =>
      handleDocumentProcessUpdateResponse resourceId connectionId updates
  | .documentChanged _ connectionId => handleDocumentChangedEvent connectionId
  | .editingEvent resourceId _ updates docType =>
      handleEditingEvent resourceId updates docType
  | .updatesEvent resourceId updates _ => handleUpdateEvent resourceId updates
  | _ => return []

/-- What the task of an editor's update spawns. The task checks the note once,
and then spawns this and broadcasts; here each of the two has the check, so that
all that the one check allows is among what the two allow. -/
def applySyncUpdateToBuffer (payload : UpdatePayload) : NoteHandler yrs :=
  forCurrentNote payload.resourceId do
    HandleTask.applyUpdate payload.updateBytes payload.docType
    return []

def broadcastUpdate (payload : UpdatePayload) : NoteHandler yrs :=
  forCurrentNote payload.resourceId do
    let active ← Program.read fun note => .ok note.activeConnections
    if active.isEmpty then return []
    else
      return [.liveEdit (.documentUpdate payload.resourceId payload.clientId
        payload.updateBytes payload.docType)]

/-- The connections are cleared when another note is opened. The notices that
peers get of the change are left out. -/
def handleLeavingNote (newNoteId : Option String) : HandleTask yrs PUnit := do
  let previousNoteId ← getCurrentNote
  match previousNoteId with
  | none => return .unit
  | some _ =>
      if newNoteId = previousNoteId then return .unit
      else changeConnections fun _ => []

/-- `states` is what the store has for the note, nothing if it cannot be
loaded. -/
def noteChange (noteId : Option String) (states : DocSelection → Option Bytes) :
    NoteHandler yrs := do
  handleLeavingNote noteId
  HandleTask.setCurrentNote noteId states
  return []

end NoteHandler

inductive NoteCall where
  | noteChange (noteId : Option String) (states : DocSelection → Option Bytes)
  | syncUpdate (payload : UpdatePayload)
  | broadcast (payload : UpdatePayload)
  | p2pEvent (event : P2PEvent)

def NoteCall.handler : NoteCall → NoteHandler yrs
  | noteChange noteId states => NoteHandler.noteChange noteId states
  | syncUpdate payload => NoteHandler.applySyncUpdateToBuffer payload
  | broadcast payload => NoteHandler.broadcastUpdate payload
  | p2pEvent event => NoteHandler.handleP2PEvent event

end Osvauld.Livnote
