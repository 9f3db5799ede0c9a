import Osvauld.Network.P2P.Guarantees
import Osvauld.Network.P2P.ProcessMessage

namespace Osvauld.Network

open Osvauld.Core Data Persistance Services

/-! What the two ends of a synchronization of users announce to each other. -/

inductive Announcement where
  | manifestRequest
  | manifestResponse
  | manifestAck
  | users
  | usersAck
  | folders
  | recipients
  | resource (resourceId : String)
  /-- A message that has no place in a synchronization of users. -/
  | foreign
deriving DecidableEq, Repr

def announcement? : Message → Option Announcement
  | .userManifestPayload (.request _) => some .manifestRequest
  | .userManifestPayload (.response _) => some .manifestResponse
  | .userManifestPayload .ack => some .manifestAck
  | .userNetworkSync _ => some .users
  | .userNetworkSyncAck => some .usersAck
  | .folderSync (.unknownFoldersPayload _) => some .folders
  | .folderSync (.folderRecipientSyncPayload _) => some .recipients
  | .resourceAdditionRequest payload => some (.resource payload.resource.id)
  | .resourceAdditionComplete => none
  | .mergeUpdate _ => none
  | _ => some .foreign

structure Role where
  isInitiator : Bool
  missing : Option (List String)

def missingResources (connection : PeerConnection) : Option (List String) :=
  connection.userManifestResult.map fun manifest =>
    manifest.remoteMissing.unknownResources

structure PeerConnection.Plays (role : Role) (connection : PeerConnection) : Prop where
  isInitiator : connection.isInitiator = role.isInitiator
  kind : connection.kind = .user
  missing : missingResources connection = role.missing

def Announces (announcements : List Announcement)
    (connection connection' : PeerConnection) : Prop :=
  ∃ messages, connection'.sent = connection.sent ++ messages ∧
    messages.filterMap announcement? = announcements

theorem Announces.refl (connection : PeerConnection) :
    Announces [] connection connection :=
  ⟨[], (List.append_nil _).symm, rfl⟩

theorem Announces.trans {first second : List Announcement}
    {connection connection' connection'' : PeerConnection}
    (hfirst : Announces first connection connection')
    (hsecond : Announces second connection' connection'') :
    Announces (first ++ second) connection connection'' := by
  obtain ⟨messages, hsent, rfl⟩ := hfirst
  obtain ⟨messages', hsent', rfl⟩ := hsecond
  exact ⟨messages ++ messages', by rw [hsent', hsent, List.append_assoc],
    List.filterMap_append⟩

def Tells {α : Type} (role role' : Role) (announcements : List Announcement)
    (program : Handler α) : Prop :=
  ∀ session value session', session.connection.Plays role →
    program.run session = (.ok value, session') →
      session'.connection.Plays role' ∧
        Announces announcements session.connection session'.connection

namespace Tells

variable {α β : Type} {role role' role'' : Role}
variable {first second announcements : List Announcement}

variable {continuation : α → Handler β}

theorem bind {program : Handler α} (hprogram : Tells role role' first program)
    (hcontinuation : ∀ value, Tells role' role'' second (continuation value)) :
    Tells role role'' (first ++ second) (program >>= continuation) := by
  intro session value session' hplays hrun
  rw [Program.run_bind] at hrun
  cases hfirst : program.run session with
  | mk outcome middle =>
      rw [hfirst] at hrun
      cases outcome with
      | error error => cases hrun
      | ok result =>
          obtain ⟨hmiddle, hannounced⟩ := hprogram session result middle hplays hfirst
          obtain ⟨hafter, hannounced'⟩ :=
            hcontinuation result middle value session' hmiddle hrun
          exact ⟨hafter, hannounced.trans hannounced'⟩

theorem after {program : Handler α} (hprogram : Tells role role [] program)
    (hcontinuation : ∀ value, Tells role role' announcements (continuation value)) :
    Tells role role' announcements (program >>= continuation) :=
  hprogram.bind hcontinuation

theorem pure (value : α) : Tells role role [] (Pure.pure value : Handler α) := by
  intro session value' session' hplays hrun
  cases hrun
  exact ⟨hplays, .refl _⟩

theorem callService (service : Service α) : Tells role role []
    (Network.callService service) := by
  intro session value session' hplays hrun
  rw [run_callService] at hrun
  cases (Prod.mk.inj hrun).2
  exact ⟨hplays, .refl _⟩

theorem callServiceAs (report : ServiceError → SyncError) (service : Service α) :
    Tells role role [] (Network.callServiceAs report service) := by
  intro session value session' hplays hrun
  rw [Network.callServiceAs, Program.run_mapError, run_onRepo] at hrun
  cases (Prod.mk.inj hrun).2
  exact ⟨hplays, .refl _⟩

theorem getLocalUser (env : NetworkEnv) :
    Tells role role [] (Network.getLocalUser env) := by
  intro session value session' hplays hrun
  unfold Network.getLocalUser at hrun
  cases huser : env.currentUser with
  | none =>
      rw [huser] at hrun
      cases hrun
  | some user =>
      rw [huser] at hrun
      cases hrun
      exact ⟨hplays, .refl _⟩

theorem sendMessage {message : Message} {announcement : Announcement}
    (hmessage : announcement? message = some announcement) :
    Tells role role [announcement] (Network.sendMessage message) := by
  intro session value session' hplays hrun
  cases hrun
  refine ⟨⟨hplays.isInitiator, hplays.kind, hplays.missing⟩, [message], rfl, ?_⟩
  rw [List.filterMap_cons_some hmessage, List.filterMap_nil]

theorem sendQuietly {message : Message} (hmessage : announcement? message = none) :
    Tells role role [] (Network.sendMessage message) := by
  intro session value session' hplays hrun
  cases hrun
  refine ⟨⟨hplays.isInitiator, hplays.kind, hplays.missing⟩, [message], rfl, ?_⟩
  rw [List.filterMap_cons_none hmessage, List.filterMap_nil]

theorem emit (event : P2PEvent) : Tells role role [] (Network.emit event) := by
  intro session value session' hplays hrun
  cases hrun
  exact ⟨⟨hplays.isInitiator, hplays.kind, hplays.missing⟩, .refl _⟩

theorem readConnection {field : PeerConnection → α}
    (hcontinuation : ∀ connection : PeerConnection, connection.Plays role →
      Tells role role' announcements (continuation (field connection))) :
    Tells role role' announcements (Network.readConnection field >>= continuation) := by
  intro session value session' hplays hrun
  rw [Program.run_bind, run_readConnection, Program.andThen_ok] at hrun
  exact hcontinuation session.connection hplays session value session' hplays hrun

theorem getUserManifestResult
    {continuation : UserManifestComparisonResult → Handler β}
    (hcontinuation : ∀ manifest,
      role.missing = some manifest.remoteMissing.unknownResources →
        Tells role role' announcements (continuation manifest)) :
    Tells role role' announcements (Network.getUserManifestResult >>= continuation) := by
  intro session value session' hplays hrun
  cases hmanifest : session.connection.userManifestResult with
  | none =>
      rw [Program.run_bind, Network.getUserManifestResult,
        run_requireManifest_none hmanifest] at hrun
      cases hrun
  | some manifest =>
      have hread : Network.getUserManifestResult.run session = (.ok manifest, session) := by
        rw [Network.getUserManifestResult, requireManifest, Program.run_read, hmanifest]
      rw [Program.run_bind, hread, Program.andThen_ok] at hrun
      refine hcontinuation manifest ?_ session value session' hplays hrun
      rw [← hplays.missing, missingResources, hmanifest]
      rfl

theorem forEach {items : List β} {body : β → Handler PUnit}
    {announced : β → List Announcement}
    (hbody : ∀ item, Tells role role (announced item) (body item)) :
    Tells role role (items.flatMap announced) (Program.forEach items body) := by
  induction items with
  | nil => exact .pure _
  | cons item rest ih => exact (hbody item).bind fun _ => ih

end Tells

structure Silent (connection connection' : PeerConnection) : Prop where
  isInitiator : connection'.isInitiator = connection.isInitiator
  kind : connection'.kind = connection.kind
  missing : missingResources connection' = missingResources connection
  announces : Announces [] connection connection'

namespace Silent

theorem refl (connection : PeerConnection) : Silent connection connection :=
  ⟨rfl, rfl, rfl, .refl connection⟩

theorem trans (first second third : PeerConnection) (hfirst : Silent first second)
    (hsecond : Silent second third) : Silent first third :=
  ⟨hsecond.isInitiator.trans hfirst.isInitiator, hsecond.kind.trans hfirst.kind,
    hsecond.missing.trans hfirst.missing, hfirst.announces.trans hsecond.announces⟩

theorem plays {role : Role} {connection connection' : PeerConnection}
    (hsilent : Silent connection connection') (hplays : connection.Plays role) :
    connection'.Plays role :=
  ⟨hsilent.isInitiator.trans hplays.isInitiator, hsilent.kind.trans hplays.kind,
    hsilent.missing.trans hplays.missing⟩

abbrev Keeps {α : Type} (program : Handler α) : Prop :=
  Program.Guarantees (OnConnection Silent) program

theorem sendMessage {message : Message} (hmessage : announcement? message = none) :
    Keeps (Network.sendMessage message) := by
  refine .connection_change fun connection => ⟨rfl, rfl, rfl, [message], rfl, ?_⟩
  rw [List.filterMap_cons_none hmessage, List.filterMap_nil]

theorem emit (event : P2PEvent) : Keeps (Network.emit event) :=
  .connection_change fun connection => ⟨rfl, rfl, rfl, .refl connection⟩

theorem callService {α : Type} (service : Service α) : Keeps (Network.callService service) :=
  .connection_callService refl service

theorem readConnection {α : Type} (field : PeerConnection → α) :
    Keeps (Network.readConnection field) :=
  .connection_read refl _

variable (env : NetworkEnv)

theorem removeLocalMissingResource (connectionType : ConnectionType)
    (resourceId : String) :
    Keeps (Network.removeLocalMissingResource connectionType resourceId) := by
  cases connectionType with
  | device =>
      refine .bind (.connection_change fun connection => ?_) fun _ => readConnection _
      exact ⟨rfl, rfl, rfl, .refl connection⟩
  | user =>
      refine .bind (.connection_change fun connection => ?_) fun _ => readConnection _
      refine ⟨rfl, rfl, ?_, .refl connection⟩
      unfold missingResources
      cases connection.userManifestResult <;> rfl

theorem processResourceAdditionRequest (payload : ResourceSyncData) :
    Keeps (Network.processResourceAdditionRequest payload) := by
  refine .bind (readConnection _) fun kind => .bind (callService _) fun _ => ?_
  refine .bind (readConnection _) fun peerUser => .bind (emit _) fun _ => ?_
  refine .bind (removeLocalMissingResource _ _) fun isEmpty => ?_
  exact .ite (sendMessage rfl) (.pure _)

theorem processResourceAdditionComplete :
    Keeps (Network.processResourceAdditionComplete env) := by
  have hrequiring : Keeps resourcesRequiringSync := by
    refine .bind (readConnection _) fun kind => ?_
    cases kind with
    | device => exact .bind (.connection_read refl _) fun _ => .pure _
    | user => exact .bind (.connection_read refl _) fun _ => .pure _
  refine .bind (readConnection _) fun isInitiator => .ite ?_ (.pure _)
  refine .bind hrequiring fun resourceIds => .forEach fun resourceId _ => ?_
  refine .bind (.getLocalUser env) fun user => .bind (callService _) fun _ => ?_
  exact .bind (callService _) fun _ => sendMessage rfl

theorem requireUpdateAuthority (resourceId token : String) :
    Keeps (Network.requireUpdateAuthority env resourceId token) :=
  .bind (readConnection _) fun _ => .bind (callService _) fun _ =>
    .ite (.fail _) (.pure _)

theorem processResourceUpdateMessage (payload : ResourceUpdateMsg) :
    Keeps (Network.processResourceUpdateMessage env payload) := by
  refine .bind (.getLocalUser env) fun user => ?_
  cases payload with
  | stateVectorRequest resourceId stateVectors token =>
      refine .bind (requireUpdateAuthority _ _ _) fun _ => ?_
      refine .bind (callService _) fun _ => .bind (callService _) fun _ => ?_
      exact sendMessage rfl
  | updatesResponse resourceId updates token =>
      refine .bind (requireUpdateAuthority _ _ _) fun _ => ?_
      refine .bind (callService _) fun _ => .bind (callService _) fun _ => ?_
      refine .bind (callService _) fun _ => .bind (callService _) fun _ => ?_
      refine .bind (sendMessage rfl) fun _ => .bind (readConnection _) fun _ => ?_
      exact .bind (.getClientId _ _) fun _ => emit _
  | finalUpdateMerge resourceId updates vectorClocks shareRecords keys =>
      refine .bind (callService _) fun _ => .bind (readConnection _) fun _ => ?_
      refine .bind (.getClientId _ _) fun _ => .bind (emit _) fun _ => ?_
      refine .bind (callService _) fun _ => ?_
      refine .bind (.connection_updateRepo refl _) fun _ => ?_
      refine .bind (callService _) fun _ => .bind (callService _) fun _ => ?_
      exact sendMessage rfl
  | vectorClockResponse resourceId updateClock addClock shareRecords keys =>
      refine .bind (callService _) fun _ => .bind (callService _) fun _ => ?_
      exact .connection_updateRepo refl _

theorem processMessage {message : Message}
    (hmessage : announcement? message = none ∨
      ∃ resourceId, announcement? message = some (.resource resourceId)) :
    Keeps (Network.processMessage env message) := by
  cases message with
  | resourceAdditionRequest payload => exact processResourceAdditionRequest payload
  | resourceAdditionComplete => exact processResourceAdditionComplete env
  | mergeUpdate payload => exact processResourceUpdateMessage env payload
  | userManifestPayload payload =>
      cases payload <;> rcases hmessage with h | ⟨_, h⟩ <;> cases h
  | folderSync payload =>
      cases payload <;> rcases hmessage with h | ⟨_, h⟩ <;> cases h
  | _ => rcases hmessage with h | ⟨_, h⟩ <;> cases h

def UnlessDone {α : Type} (program : Handler α) : Prop :=
  ∀ session error session', program.run session = (.error error, session') →
    Silent session.connection session'.connection

namespace UnlessDone

variable {α β : Type}

theorem of_keeps {program : Handler α} (hprogram : Keeps program) : UnlessDone program := by
  intro session error session' hrun
  have hsilent := run_keeps hprogram Silent.refl Silent.trans session
  rwa [hrun] at hsilent

theorem after {program : Handler α} {continuation : α → Handler β}
    (hprogram : Keeps program) (hcontinuation : ∀ value, UnlessDone (continuation value)) :
    UnlessDone (program >>= continuation) := by
  intro session error session' hrun
  have hsilent := run_keeps hprogram Silent.refl Silent.trans session
  rw [Program.run_bind] at hrun
  cases hfirst : program.run session with
  | mk outcome middle =>
      rw [hfirst] at hrun hsilent
      cases outcome with
      | error _ =>
          cases hrun
          exact hsilent
      | ok value => exact .trans _ _ _ hsilent (hcontinuation value middle error session' hrun)

theorem sendMessage (message : Message) : UnlessDone (Network.sendMessage message) := by
  intro session error session' hrun
  cases hrun

theorem getUserManifestResult {continuation : UserManifestComparisonResult → Handler β}
    (hcontinuation : ∀ manifest, UnlessDone (continuation manifest)) :
    UnlessDone (Network.getUserManifestResult >>= continuation) :=
  .after (.connection_read refl _) hcontinuation

end UnlessDone

theorem receiveUnknownFolders (payload : UnknownFoldersPayload) :
    UnlessDone (Network.receiveUnknownFolders payload) := by
  refine .after (callService _) fun _ => .after (emit _) fun _ => ?_
  refine .after (readConnection _) fun isInitiator => ?_
  split
  · exact .getUserManifestResult fun manifest => .after (callService _) fun _ => .sendMessage _
  · exact .getUserManifestResult fun manifest => .after (callService _) fun _ => .sendMessage _

end Silent

section Handlers

variable (env : NetworkEnv) {role : Role}

theorem getResourceForRemoteAddition_id (resourceId : String) (device : Device)
    (repo : RepositoryContext) (payload : ResourceSyncData)
    (hrun : ((getResourceForRemoteAddition env.toServiceEnv resourceId device).run
      repo).1 = .ok payload) : payload.resource.id = resourceId := by
  have hkeeps : Program.Keeps (fun _ => True)
      (fun payload : ResourceSyncData => payload.resource.id = resourceId)
      (getResourceForRemoteAddition env.toServiceEnv resourceId device) := by
    have hdraw : Program.Keeps (fun _ => True) (fun _ => True)
        (drawIds env.toServiceEnv 1) :=
      .atomically (fun _ _ => trivial) fun _ _ _ _ => trivial
    refine hdraw.bind fun clockId _ => ?_
    refine .bind (.write fun _ _ _ _ => trivial) fun _ _ => ?_
    refine .read fun ctx value _ hvalue => ?_
    rw [mapError_eq_ok] at hvalue
    unfold ResourceRepo.getResourceSyncData at hvalue
    split at hvalue
    · cases hvalue
    · next resource hfound =>
        cases hvalue
        have hid := List.find?_some hfound
        exact of_decide_eq_true hid
  exact (hkeeps repo trivial).2 payload hrun

theorem sendResource_tells (resourceId : String) :
    Tells role role [.resource resourceId] (sendResource env resourceId) := by
  refine .readConnection fun connection _ => ?_
  intro session value session' hplays hrun
  rw [Program.run_bind, run_callService] at hrun
  cases hpayload : ((getResourceForRemoteAddition env.toServiceEnv resourceId
      connection.device).run session.repo).1 with
  | error error =>
      rw [hpayload] at hrun
      cases hrun
  | ok payload =>
      rw [hpayload] at hrun
      change (sendMessage (.resourceAdditionRequest payload)).run _ = _ at hrun
      have hid := getResourceForRemoteAddition_id env resourceId connection.device
        session.repo payload hpayload
      have hsend : Tells role role [.resource resourceId]
          (sendMessage (.resourceAdditionRequest payload)) :=
        .sendMessage (by rw [announcement?, hid])
      have hdone := hsend _ value session' (by exact hplays) hrun
      exact hdone

variable {session session' : Session}

theorem run_remoteMissingResources (hplays : session.connection.Plays role) :
    remoteMissingResources.run session =
      (match role.missing with
        | some missing => .ok missing
        | none => .error (.sync (.manifestNotFound "user")), session) := by
  have hkind : getConnectionType.run session = (.ok .user, session) := by
    rw [getConnectionType, run_readConnection, hplays.kind]
  rw [remoteMissingResources, Program.run_bind, hkind, Program.andThen_ok,
    Program.run_bind, ← hplays.missing, missingResources]
  cases hmanifest : session.connection.userManifestResult with
  | none =>
      rw [getUserManifestResult, run_requireManifest_none hmanifest]
      rfl
  | some manifest =>
      rw [getUserManifestResult, requireManifest, Program.run_read, hmanifest]
      rfl

theorem sendResources_tells :
    Tells role role ((role.missing.getD []).map .resource) (sendResources env) := by
  intro session value session' hplays hrun
  rw [sendResources, Program.run_bind, run_remoteMissingResources hplays] at hrun
  cases hmissing : role.missing with
  | none =>
      rw [hmissing] at hrun
      cases hrun
  | some missing =>
      rw [hmissing] at hrun
      have hsend : Tells role role (missing.map .resource)
          (Program.forEach missing (sendResource env)) := by
        rw [List.map_eq_flatMap]
        exact .forEach fun resourceId => sendResource_tells env resourceId
      have hall : Tells role role (missing.map .resource) (do
          if missing.isEmpty then sendMessage .resourceAdditionComplete
          Program.forEach missing (sendResource env)) := by
        split
        · exact .after (.sendQuietly rfl) fun _ => hsend
        · exact hsend
      exact hall session value session' hplays hrun

theorem startUserNetworkSync_tells (hinitiator : role.isInitiator = true) :
    Tells role role [.manifestRequest] (startUserNetworkSync env) := by
  refine .readConnection fun connection hplays => ?_
  rw [hplays.isInitiator, hinitiator]
  refine .readConnection fun peer _ => .after (.getLocalUser env) fun currentUser => ?_
  exact .after (.callServiceAs _ _) fun userManifest => .sendMessage rfl

theorem sendUserNetworkSync_tells :
    Tells role role [.users] (sendUserNetworkSync env) := by
  refine .getUserManifestResult fun manifest _ => ?_
  refine .readConnection fun connection _ => ?_
  exact .after (.callServiceAs _ _) fun payload => .sendMessage rfl

theorem processUserNetworkSync_tells (payload : UserNetworkSyncPayload) :
    Tells role role (if role.isInitiator then [.users, .usersAck] else [.usersAck])
      (processUserNetworkSync env payload) := by
  have hrest : Tells role role [.usersAck] (do
      callServiceAs .userSyncFailed (processUserNetworkSyncPayload payload)
      sendMessage .userNetworkSyncAck) :=
    .after (.callServiceAs _ _) fun _ => .sendMessage rfl
  refine .readConnection fun connection hplays => ?_
  rw [hplays.isInitiator]
  split
  · exact (sendUserNetworkSync_tells env).bind fun _ => hrest
  · exact hrest

theorem startFolderSync_tells : Tells role role [.folders] startFolderSync := by
  refine .getUserManifestResult fun manifest _ => ?_
  split
  · exact .sendMessage rfl
  · exact .after (.callService _) fun payload => .sendMessage rfl

theorem sendUnknownFolders_tells : Tells role role [.folders] sendUnknownFolders := by
  refine .getUserManifestResult fun manifest _ => ?_
  exact .after (.callService _) fun payload => .sendMessage rfl

theorem sendFolderRecipientSync_tells :
    Tells role role [.recipients] sendFolderRecipientSync := by
  refine .getUserManifestResult fun manifest _ => ?_
  exact .after (.callService _) fun payload => .sendMessage rfl

theorem receiveUnknownFolders_tells (payload : UnknownFoldersPayload) :
    Tells role role (if role.isInitiator then [.recipients] else [.folders])
      (receiveUnknownFolders payload) := by
  refine .after (.callService _) fun _ => .after (.emit _) fun _ => ?_
  refine .readConnection fun connection hplays => ?_
  rw [hplays.isInitiator]
  split
  · exact sendFolderRecipientSync_tells
  · exact sendUnknownFolders_tells

theorem processFolderRecipientSync_tells (payload : List FolderRecipientUpdate) :
    Tells role role ((if role.isInitiator then [] else [.recipients]) ++
      (role.missing.getD []).map .resource) (processFolderRecipientSync env payload) := by
  refine .getUserManifestResult fun manifest _ => ?_
  refine .after (.getLocalUser env) fun currentUser => ?_
  refine .readConnection fun peer _ => .after (.callService _) fun _ => ?_
  refine .readConnection fun connection hplays => ?_
  rw [hplays.isInitiator]
  cases role.isInitiator with
  | true => exact sendResources_tells env
  | false => exact sendFolderRecipientSync_tells.bind fun _ => sendResources_tells env

def answers (isInitiator : Bool) (missing : List String) :
    Announcement → List Announcement
  | .manifestRequest => [.manifestResponse]
  | .manifestResponse => [.manifestAck]
  | .manifestAck => [.users]
  | .users => if isInitiator then [.users, .usersAck] else [.usersAck]
  | .usersAck => [.folders]
  | .folders => if isInitiator then [.recipients] else [.folders]
  | .recipients =>
      (if isInitiator then [] else [.recipients]) ++ missing.map .resource
  | .resource _ => []
  | .foreign => []

def BringsManifest (announcement : Announcement) : Prop :=
  announcement = .manifestRequest ∨ announcement = .manifestResponse

theorem setManifest_tells {manifest : UserManifestComparisonResult}
    {message : Message} {announcement : Announcement}
    (hmessage : announcement? message = some announcement) :
    Tells role { role with missing := some manifest.remoteMissing.unknownResources }
      [announcement] (do
        setUserManifestComparisonResult manifest
        sendMessage message) := by
  intro session value session' hplays hrun
  cases hrun
  refine ⟨⟨hplays.isInitiator, hplays.kind, rfl⟩, [message], rfl, ?_⟩
  rw [List.filterMap_cons_some hmessage, List.filterMap_nil]

theorem processManifestRequest_tells (payload : UserManifestRequestPayload)
    (hplays : session.connection.Plays role)
    (hrun : (processManifestRequest env payload).run session = (.ok .unit, session')) :
    (∃ missing, session'.connection.Plays { role with missing }) ∧
      Announces [.manifestResponse] session.connection session'.connection := by
  have hpeer : getPeerUser.run session = (.ok session.connection.user, session) := rfl
  have hcompared : ∃ manifest middle,
      middle.connection.Plays role ∧ Announces [] session.connection middle.connection ∧
        (do
          setUserManifestComparisonResult manifest
          sendMessage (.userManifestPayload (.response manifest)) : Handler PUnit).run
            middle = (.ok .unit, session') := by
    rw [processManifestRequest, Program.run_bind, hpeer, Program.andThen_ok,
      Program.run_bind] at hrun
    cases hlocal : (getLocalUser env).run session with
    | mk outcome middle =>
        rw [hlocal] at hrun
        cases outcome with
        | error error => cases hrun
        | ok currentUser =>
            obtain ⟨hmiddle, hnone⟩ := Tells.getLocalUser env session _ _ hplays hlocal
            rw [Program.andThen_ok, Program.run_bind] at hrun
            cases hservice : (callServiceAs .manifestComparisonFailed
                (processUserManifestRequest payload session.connection.user.id
                  currentUser.id)).run middle with
            | mk compared after =>
                rw [hservice] at hrun
                cases compared with
                | error error => cases hrun
                | ok manifest =>
                    obtain ⟨hafter, hnone'⟩ :=
                      Tells.callServiceAs _ _ middle _ _ hmiddle hservice
                    exact ⟨manifest, after, hafter, hnone.trans hnone', hrun⟩
  obtain ⟨manifest, middle, hmiddle, hnone, hanswer⟩ := hcompared
  obtain ⟨hafter, hannounced⟩ :=
    setManifest_tells (by rfl) middle _ session' hmiddle hanswer
  exact ⟨⟨_, hafter⟩, hnone.trans hannounced⟩

theorem processManifestResponse_tells (manifest : UserManifestComparisonResult)
    (hplays : session.connection.Plays role)
    (hrun : (processManifestResponse manifest).run session = (.ok .unit, session')) :
    (∃ missing, session'.connection.Plays { role with missing }) ∧
      Announces [.manifestAck] session.connection session'.connection := by
  obtain ⟨hafter, hannounced⟩ :=
    setManifest_tells (by rfl) session _ session' hplays hrun
  exact ⟨⟨_, hafter⟩, hannounced⟩

theorem processMessage_tells {message : Message} {announcement : Announcement}
    (hmessage : announcement? message = some announcement) (hforeign : announcement ≠ .foreign)
    (hplays : session.connection.Plays role)
    (hrun : (processMessage env message).run session = (.ok .unit, session')) :
    (∃ missing, session'.connection.Plays { role with missing } ∧
        (¬ BringsManifest announcement → missing = role.missing)) ∧
      Announces (answers role.isInitiator (role.missing.getD []) announcement)
        session.connection session'.connection := by
  have hsame {announcements : List Announcement}
      (htells : Tells role role announcements (processMessage env message)) :
      (∃ missing, session'.connection.Plays { role with missing } ∧
          (¬ BringsManifest announcement → missing = role.missing)) ∧
        Announces announcements session.connection session'.connection := by
    obtain ⟨hafter, hannounced⟩ := htells session _ session' hplays hrun
    exact ⟨⟨role.missing, hafter, fun _ => rfl⟩, hannounced⟩
  cases message with
  | userManifestPayload payload =>
      cases payload with
      | request requestPayload =>
          cases hmessage
          obtain ⟨⟨missing, hafter⟩, hannounced⟩ :=
            processManifestRequest_tells env requestPayload hplays hrun
          exact ⟨⟨missing, hafter, fun hother => absurd (.inl rfl) hother⟩, hannounced⟩
      | response manifest =>
          cases hmessage
          obtain ⟨⟨missing, hafter⟩, hannounced⟩ :=
            processManifestResponse_tells manifest hplays hrun
          exact ⟨⟨missing, hafter, fun hother => absurd (.inr rfl) hother⟩, hannounced⟩
      | ack =>
          cases hmessage
          exact hsame (sendUserNetworkSync_tells env)
  | userNetworkSync payload =>
      cases hmessage
      exact hsame (processUserNetworkSync_tells env payload)
  | userNetworkSyncAck =>
      cases hmessage
      exact hsame startFolderSync_tells
  | folderSync payload =>
      cases payload with
      | unknownFoldersPayload payload =>
          cases hmessage
          exact hsame (receiveUnknownFolders_tells payload)
      | folderRecipientSyncPayload payload =>
          cases hmessage
          exact hsame (processFolderRecipientSync_tells env payload)
  | resourceAdditionRequest payload =>
      cases hmessage
      have hsilent := run_keeps (Silent.processResourceAdditionRequest payload)
        Silent.refl Silent.trans session
      rw [show (processResourceAdditionRequest payload).run session = _ from hrun] at hsilent
      exact ⟨⟨role.missing, hsilent.plays hplays, fun _ => rfl⟩, hsilent.announces⟩
  | resourceAdditionComplete | mergeUpdate payload => cases hmessage
  | _ =>
      cases hmessage
      exact absurd rfl hforeign

end Handlers

end Osvauld.Network
