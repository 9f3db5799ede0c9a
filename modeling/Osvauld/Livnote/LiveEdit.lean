import Osvauld.Livnote.CurrentNoteState
import Osvauld.Network.P2P.ResourceSync

namespace Osvauld.Livnote

open Osvauld.Core Data Network

/-! What the application does on the events of a connection, and what it has
sent on that connection. The front end, which is only told, is left out. -/

variable {yrs : Yrs}

abbrev Answers (yrs : Yrs) := NoteTask yrs (List LiveEditMessage)

def isCurrentNote (resourceId : String) : NoteTask yrs Bool :=
  Program.read fun buffers => .ok (buffers.noteId == some resourceId)

def forCurrentNote (resourceId : String) (task : Answers yrs) : Answers yrs := do
  let isCurrent ← isCurrentNote resourceId
  if isCurrent then task else return []

def orNothing (task : Answers yrs) : Answers yrs := do
  let outcome ← task.attempt
  match outcome with
  | .ok messages => return messages
  | .error _ => return []

def handleLiveEditConnected : Answers yrs := do
  let noteId ← Program.read fun buffers => .ok buffers.noteId
  match noteId with
  | some resourceId => return [.documentCheck resourceId]
  | none => return []

def handleDocumentMissmatch (connectionId : String) : Answers yrs := do
  NoteTask.change (Buffers.addInactive connectionId)
  return []

def handleDocumentCheck (resourceId : String) : Answers yrs := do
  let isMatch ← isCurrentNote resourceId
  if isMatch then
    orNothing do
      let stateVectors ← NoteTask.getStateVectors
      return [.stateVectorExchange resourceId stateVectors]
  else return [.notSameDocument]

def handleDocumentUpdateRequest (resourceId : String) (stateVectors : JsonText) :
    Answers yrs :=
  forCurrentNote resourceId <| orNothing do
    let peerUpdates ← NoteTask.generateUpdatesForPeer stateVectors
    return [.updateExchange resourceId peerUpdates]

def handleDocumentProcessUpdate (resourceId connectionId : String)
    (remoteUpdates : JsonText) : Answers yrs :=
  forCurrentNote resourceId <| orNothing do
    let peerUpdates ← NoteTask.applyUpdatesAndGenerateDiff remoteUpdates
    NoteTask.change (Buffers.addActive connectionId)
    return [.updateExchangeResponse resourceId peerUpdates]

def handleDocumentProcessUpdateResponse (resourceId connectionId : String)
    (updates : JsonText) : Answers yrs :=
  forCurrentNote resourceId do
    let _ ← (NoteTask.applyPeerUpdates updates).attempt
    NoteTask.change (Buffers.addActive connectionId)
    return []

def handleDocumentChangedEvent (connectionId : String) : Answers yrs := do
  NoteTask.change (Buffers.removeActive connectionId)
  NoteTask.change (Buffers.addInactive connectionId)
  return []

def handleEditingEvent (resourceId : String) (updates : Bytes) (docType : String) :
    Answers yrs :=
  forCurrentNote resourceId do
    NoteTask.applyUpdate updates docType
    return []

/-- The events of live edits; no other event touches the open note. -/
def handleEvent : P2PEvent → Answers yrs
  | .liveEditConnected _ => handleLiveEditConnected
  | .documentCheck resourceId _ => handleDocumentCheck resourceId
  | .documentMismatch connectionId => handleDocumentMissmatch connectionId
  | .updateRequest resourceId _ stateVectors _ =>
      handleDocumentUpdateRequest resourceId stateVectors
  | .processUpdate resourceId connectionId updates _ =>
      handleDocumentProcessUpdate resourceId connectionId updates
  | .processUpdateResponse resourceId connectionId updates _ =>
      handleDocumentProcessUpdateResponse resourceId connectionId updates
  | .documentChanged _ connectionId => handleDocumentChangedEvent connectionId
  | .editingEvent resourceId _ updates docType =>
      handleEditingEvent resourceId updates docType
  | _ => return []

def eventOf (connectionId userId : String) (clientId : Nat) :
    LiveEditMessage → P2PEvent
  | .documentCheck resourceId => .documentCheck resourceId connectionId
  | .notSameDocument => .documentMismatch connectionId
  | .stateVectorExchange resourceId stateVectors =>
      .updateRequest resourceId connectionId stateVectors userId
  | .updateExchange resourceId updates =>
      .processUpdate resourceId connectionId updates clientId
  | .updateExchangeResponse resourceId updates =>
      .processUpdateResponse resourceId connectionId updates clientId
  | .documentChange resourceId => .documentChanged resourceId connectionId
  | .documentUpdate resourceId sender updates docType =>
      .editingEvent resourceId sender updates docType
  | .awarenessUpdate resourceId sender awarenessData =>
      .awarenessEvent resourceId sender awarenessData

/-- What the application does on a message. The ids of the user and of the
client that the event tells are of use to the front end only. -/
def receive (connectionId : String) (message : LiveEditMessage) : Answers yrs :=
  handleEvent (eventOf connectionId "" 0 message)

end Osvauld.Livnote
