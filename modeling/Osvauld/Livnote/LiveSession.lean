import Osvauld.Data.Run
import Osvauld.Livnote.LiveEdit

namespace Osvauld.Livnote

open Osvauld.Core Data

/-! Two ends with one note open, while their editors go on. An editor's update
is handled by a task, which has it applied by a task of its own and broadcasts
it; the messages of the other end are handled one after the other. All of these
take their steps in any order, and so do the messages on their way. -/

inductive Peer where
  | initiator
  | responder
deriving DecidableEq, Repr

namespace Peer

def other : Peer → Peer
  | .initiator => .responder
  | .responder => .initiator

@[simp] theorem other_other (peer : Peer) : peer.other.other = peer := by
  cases peer <;> rfl

theorem eq_or_eq_other (which peer : Peer) : which = peer ∨ which = peer.other := by
  cases which <;> cases peer <;> simp [other]

end Peer

structure EditTask where
  update : Bytes
  docType : String
  clientId : Nat
  spawned : Bool := false
  applied : Bool := false
  broadcast : Option Bool := none
deriving DecidableEq, Repr

namespace EditTask

def selection (edit : EditTask) : DocSelection := .ofDocType edit.docType

def message (resourceId : String) (edit : EditTask) : LiveEditMessage :=
  .documentUpdate resourceId edit.clientId edit.update edit.docType

end EditTask

structure LiveEnd (yrs : Yrs) where
  buffers : Buffers yrs
  inbox : List LiveEditMessage := []
  handling : Option (LiveEditMessage × Answers yrs) := none
  edits : List EditTask := []

structure LiveSession (yrs : Yrs) where
  initiator : LiveEnd yrs
  responder : LiveEnd yrs

inductive SessionEvent where
  | edit (peer : Peer) (update : Bytes) (docType : String) (clientId : Nat)
  | spawn (peer : Peer) (index : Nat)
  | apply (peer : Peer) (index : Nat)
  | broadcast (peer : Peer) (index : Nat)
  | receive (peer : Peer) (index : Nat)
  | handle (peer : Peer)
deriving Repr

variable {yrs : Yrs}

namespace LiveEnd

def edit (update : Bytes) (docType : String) (clientId : Nat) (self : LiveEnd yrs) :
    LiveEnd yrs :=
  if update.isEmpty then self
  else { self with edits := self.edits ++ [{ update, docType, clientId }] }

def spawn (resourceId : String) (index : Nat) (self : LiveEnd yrs) : LiveEnd yrs :=
  match self.edits[index]? with
  | none => self
  | some task =>
      if self.buffers.noteId = some resourceId then
        { self with edits := self.edits.set index { task with spawned := true } }
      else self

def apply (index : Nat) (self : LiveEnd yrs) : LiveEnd yrs :=
  match self.edits[index]? with
  | none => self
  | some task =>
      if task.spawned ∧ ¬task.applied then
        { self with
          buffers :=
            ((NoteTask.applyUpdate task.update task.docType).run self.buffers).2
          edits := self.edits.set index { task with applied := true } }
      else self

def post (messages : List LiveEditMessage) (self : LiveEnd yrs) : LiveEnd yrs :=
  { self with inbox := self.inbox ++ messages }

def receive (connectionId : String) (index : Nat) (self : LiveEnd yrs) :
    LiveEnd yrs :=
  match self.handling, self.inbox[index]? with
  | none, some message =>
      { self with
        inbox := self.inbox.eraseIdx index
        handling := some (message, Livnote.receive connectionId message) }
  | _, _ => self

def broadcast (resourceId connectionId : String) (index : Nat)
    (self other : LiveEnd yrs) : LiveEnd yrs × LiveEnd yrs :=
  match self.edits[index]? with
  | none => (self, other)
  | some task =>
      if task.spawned ∧ task.broadcast = none then
        if connectionId ∈ self.buffers.activeConnections then
          ({ self with
              edits := self.edits.set index { task with broadcast := some true } },
            other.post [task.message resourceId])
        else
          ({ self with
              edits := self.edits.set index { task with broadcast := some false } },
            other)
      else (self, other)

def handle (self other : LiveEnd yrs) : LiveEnd yrs × LiveEnd yrs :=
  match self.handling with
  | none => (self, other)
  | some (message, .step next rest) =>
      ({ self with
          buffers := next self.buffers
          handling := some (message, rest self.buffers) },
        other)
  | some (_, .done (.ok messages)) =>
      ({ self with handling := none }, other.post messages)
  | some (_, .done (.error _)) => ({ self with handling := none }, other)

end LiveEnd

namespace LiveSession

def ends (session : LiveSession yrs) : Peer → LiveEnd yrs
  | .initiator => session.initiator
  | .responder => session.responder

instance : CoeFun (LiveSession yrs) fun _ => Peer → LiveEnd yrs := ⟨ends⟩

def withEnds (peer : Peer) (ends : LiveEnd yrs × LiveEnd yrs) : LiveSession yrs :=
  match peer with
  | .initiator => ⟨ends.1, ends.2⟩
  | .responder => ⟨ends.2, ends.1⟩

@[simp] theorem withEnds_self (peer : Peer) (ends : LiveEnd yrs × LiveEnd yrs) :
    withEnds peer ends peer = ends.1 := by
  cases peer <;> rfl

@[simp] theorem withEnds_other (peer : Peer) (ends : LiveEnd yrs × LiveEnd yrs) :
    withEnds peer ends peer.other = ends.2 := by
  cases peer <;> rfl

def step (resourceId : String) (connectionId : Peer → String) :
    SessionEvent → LiveSession yrs → LiveSession yrs
  | .edit peer update docType clientId, session =>
      withEnds peer
        ((session peer).edit update docType clientId, session peer.other)
  | .spawn peer index, session =>
      withEnds peer ((session peer).spawn resourceId index, session peer.other)
  | .apply peer index, session =>
      withEnds peer ((session peer).apply index, session peer.other)
  | .broadcast peer index, session =>
      withEnds peer ((session peer).broadcast resourceId (connectionId peer) index
        (session peer.other))
  | .receive peer index, session =>
      withEnds peer
        ((session peer).receive (connectionId peer) index, session peer.other)
  | .handle peer, session =>
      withEnds peer ((session peer).handle (session peer.other))

def start (resourceId : String) (buffers : Peer → Buffers yrs) : LiveSession yrs :=
  { initiator := { buffers := buffers .initiator }
    responder :=
      { buffers := buffers .responder, inbox := [.documentCheck resourceId] } }

def Settled (session : LiveSession yrs) : Prop :=
  ∀ peer, (session peer).inbox = [] ∧ (session peer).handling = none ∧
    ∀ edit ∈ (session peer).edits, edit.applied ∧ edit.broadcast ≠ none

end LiveSession

end Osvauld.Livnote
