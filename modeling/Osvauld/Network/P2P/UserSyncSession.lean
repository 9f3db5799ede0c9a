import Mathlib.Data.List.Perm.Basic
import Osvauld.Data.Lists
import Osvauld.Network.P2P.Announcements

namespace Osvauld.Network

open Osvauld.Core Data Persistance Services

/-! A synchronization of users between two ends. Every message travels on a
stream of its own, so that those on their way may arrive in any order. -/

inductive Side where
  | initiator
  | responder
deriving DecidableEq, Repr

structure SyncEnd where
  session : Session
  inbox : List Message := []
  told : List Message := []
  /-- The messages that were dealt with to the end, and the others. -/
  done : List Message := []
  failed : List Message := []

namespace SyncEnd

def post (messages : List Message) (self : SyncEnd) : SyncEnd :=
  { self with inbox := self.inbox ++ messages }

def tell (session : Session) (self : SyncEnd) : List Message :=
  session.connection.sent.drop self.session.connection.sent.length

def deliver (env : NetworkEnv) (index : Nat) (self other : SyncEnd) : SyncEnd × SyncEnd :=
  match self.inbox[index]? with
  | none => (self, other)
  | some message =>
      let session := receive env message self.session
      let succeeded := ((processMessage env message).run self.session).1 = .ok .unit
      ({ session
         inbox := self.inbox.eraseIdx index
         told := self.told ++ self.tell session
         done := if succeeded then self.done ++ [message] else self.done
         failed := if succeeded then self.failed else self.failed ++ [message] },
        other.post (self.tell session))

def elsewhere (repo : RepositoryContext) (self : SyncEnd) : SyncEnd :=
  { self with session := { self.session with repo } }

end SyncEnd

structure SyncPair where
  initiator : SyncEnd
  responder : SyncEnd

inductive SyncEvent where
  | deliver (side : Side) (env : NetworkEnv) (index : Nat)
  | elsewhere (side : Side) (repo : RepositoryContext)

def SyncEvent.step : SyncEvent → SyncPair → SyncPair
  | .deliver .initiator env index, pair =>
      let (initiator, responder) := pair.initiator.deliver env index pair.responder
      { initiator, responder }
  | .deliver .responder env index, pair =>
      let (responder, initiator) := pair.responder.deliver env index pair.initiator
      { initiator, responder }
  | .elsewhere .initiator repo, pair =>
      { pair with initiator := pair.initiator.elsewhere repo }
  | .elsewhere .responder repo, pair =>
      { pair with responder := pair.responder.elsewhere repo }

def startSync (env : NetworkEnv) (initiator responder : Session) : SyncPair :=
  let waiting : SyncEnd := { session := initiator }
  let session := ((startUserNetworkSync env).run initiator).2
  { initiator := { session, told := waiting.tell session }
    responder := { session := responder, inbox := waiting.tell session } }

/-- The ends are connected as the two ends of a synchronization of users, and
the first one gets to ask for it. -/
structure CanStart (env : NetworkEnv) (initiator responder : Session) : Prop where
  initiates : initiator.connection.isInitiator = true
  responds : responder.connection.isInitiator = false
  initiatorKind : initiator.connection.kind = .user
  responderKind : responder.connection.kind = .user
  asks : ((startUserNetworkSync env).run initiator).1 = .ok .unit

abbrev afterSync (start : SyncPair) (events : List SyncEvent) : SyncPair :=
  run SyncEvent.step start events

def announced (messages : List Message) : List Announcement :=
  messages.filterMap announcement?

def Announcement.isResource : Announcement → Bool
  | .resource _ => true
  | _ => false

def causes (isInitiator : Bool) : Announcement → List Announcement
  | .manifestRequest => []
  | .manifestResponse => [.manifestRequest]
  | .manifestAck => [.manifestResponse]
  | .users => if isInitiator then [.manifestAck, .users] else [.manifestAck]
  | .usersAck => [.users]
  | .folders => if isInitiator then [.usersAck] else [.usersAck, .folders]
  | .recipients => if isInitiator then [.folders] else [.recipients]
  | .resource _ => []
  | .foreign => []

theorem count_answers (isInitiator : Bool) (missing : List String)
    {announcement : Announcement}
    (hphase : announcement.isResource = false) (cause : Announcement) :
    (answers isInitiator missing cause).count announcement =
      (causes isInitiator announcement).count cause := by
  have hmissing : (missing.map Announcement.resource).count announcement = 0 := by
    refine List.count_eq_zero.mpr fun hmem => ?_
    obtain ⟨resourceId, _, heq⟩ := List.mem_map.mp hmem
    rw [← heq] at hphase
    cases hphase
  cases announcement with
  | resource resourceId => cases hphase
  | _ => cases cause <;> cases isInitiator <;>
      simp [answers, causes, hmissing]

namespace SyncEnd

def missing (self : SyncEnd) : List String :=
  (missingResources self.session.connection).getD []

structure Accounts (isInitiator : Bool) (opening : List Announcement) (mine : SyncEnd) :
    Prop where
  initiates : mine.session.connection.isInitiator = isInitiator
  kind : mine.session.connection.kind = .user
  told : announced mine.told =
    opening ++ (announced mine.done).flatMap (answers isInitiator mine.missing)

def Hears (self other : SyncEnd) : Prop :=
  other.told.Perm (self.inbox ++ (self.done ++ self.failed))

variable {isInitiator : Bool} {opening : List Announcement} {self other : SyncEnd}

theorem Accounts.count_told (haccounts : self.Accounts isInitiator opening)
    {announcement : Announcement}
    (hphase : announcement.isResource = false) :
    (announced self.told).count announcement = opening.count announcement +
      ((causes isInitiator announcement).map fun cause =>
        (announced self.done).count cause).sum := by
  rw [haccounts.told, List.count_append,
    count_flatMap_of_sources (count_answers isInitiator self.missing hphase)]

theorem Hears.count_told (hhears : self.Hears other) (announcement : Announcement) :
    (announced other.told).count announcement =
      (announced self.inbox).count announcement +
        ((announced self.done).count announcement +
          (announced self.failed).count announcement) := by
  have hcount := (hhears.filterMap announcement?).count_eq announcement
  rwa [List.filterMap_append, List.filterMap_append, List.count_append,
    List.count_append] at hcount

/-- What an end may fail to deal with: the resources and the merges, and, where
it did not begin, the folders. -/
def MayFail (isInitiator : Bool) (message : Message) : Prop :=
  announcement? message = none ∨
    (∃ resourceId, announcement? message = some (.resource resourceId)) ∨
    isInitiator = false ∧ announcement? message = some .folders

theorem receive_announces {env : NetworkEnv} {message : Message}
    {announcements : List Announcement} {session : Session}
    (hannounces : Announces announcements self.session.connection
      ((processMessage env message).run self.session).2.connection)
    (hsession : session = receive env message self.session) :
    announced (self.tell session) = announcements := by
  obtain ⟨messages, hsent, hannounced⟩ := hannounces
  rw [hsession, tell, receive_sent, hsent, List.drop_left]
  exact hannounced

end SyncEnd

theorem receive_plays {env : NetworkEnv} {message : Message} {session : Session}
    {role : Role}
    (hplays : ((processMessage env message).run session).2.connection.Plays role) :
    (receive env message session).connection.Plays role := by
  obtain ⟨events, heq⟩ := receive_eq env message session
  rw [heq]
  exact ⟨hplays.isInitiator, hplays.kind, hplays.missing⟩

theorem silent_of_mayFail {env : NetworkEnv} {isInitiator : Bool} {message : Message}
    (hmayFail : SyncEnd.MayFail isInitiator message) {session session' : Session}
    {error : P2PError}
    (hrun : (processMessage env message).run session = (.error error, session')) :
    Silent session.connection session'.connection := by
  have hincidental (hmessage : announcement? message = none ∨
      ∃ resourceId, announcement? message = some (.resource resourceId)) :
      Silent session.connection session'.connection :=
    Silent.UnlessDone.of_keeps (Silent.processMessage env hmessage) session error session' hrun
  rcases hmayFail with hnone | hresource | ⟨_, hfolders⟩
  · exact hincidental (.inl hnone)
  · exact hincidental (.inr hresource)
  · cases message with
    | folderSync payload =>
        cases payload with
        | unknownFoldersPayload payload =>
            exact Silent.receiveUnknownFolders payload session error session' hrun
        | folderRecipientSyncPayload payload => cases hfolders
    | userManifestPayload payload => cases payload <;> cases hfolders
    | _ => cases hfolders

end Osvauld.Network
