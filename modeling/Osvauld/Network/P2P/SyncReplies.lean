import Osvauld.Network.P2P.Announcements
import Osvauld.Network.P2P.SyncMoves

namespace Osvauld.Network

open Osvauld.Core Data Persistance Services

/-! What the handlers of a synchronization answer. -/

def move? (kind : ConnectionType) (message : Message) : Option SyncMove :=
  match kind, message with
  | .device, .deviceManifestAck => some .ack
  | .device, .deviceNetworkSync _ => some .entities
  | .device, .deviceNetworkSyncAck => some .entitiesAck
  | .user, .userManifestPayload .ack => some .ack
  | .user, .userNetworkSync _ => some .entities
  | .user, .userNetworkSyncAck => some .entitiesAck
  | .user, .folderSync (.unknownFoldersPayload _) => some .folders
  | .user, .folderSync (.folderRecipientSyncPayload _) => some .recipients
  | _, .resourceAdditionRequest payload => some (.resource payload.resource.id)
  | _, .resourceAdditionComplete => some .complete
  | _, .mergeUpdate (.stateVectorRequest resourceId _ _) => some (.stateVector resourceId)
  | _, .mergeUpdate _ => none
  | _, _ => some .foreign

def standing? (connection : PeerConnection) : Option Standing :=
  match connection.kind with
  | .device => connection.deviceManifestResult.map fun manifest =>
      { isInitiator := connection.isInitiator
        kind := .device
        toCome := manifest.localMissing.unknownResources
        toSend := manifest.remoteMissing.unknownResources
        toSync := manifest.resourcesRequiringSync }
  | .user => connection.userManifestResult.map fun manifest =>
      { isInitiator := connection.isInitiator
        kind := .user
        toCome := manifest.localMissing.unknownResources
        toSend := manifest.remoteMissing.unknownResources
        toSync := manifest.resourcesRequiringSync }

variable {connection : PeerConnection} {standing : Standing}

theorem standing?_of_device {manifest : DeviceManifestComparisonResult}
    (hkind : connection.kind = .device)
    (hmanifest : connection.deviceManifestResult = some manifest) :
    standing? connection = some ⟨connection.isInitiator, .device,
      manifest.localMissing.unknownResources, manifest.remoteMissing.unknownResources,
      manifest.resourcesRequiringSync⟩ := by
  unfold standing?
  rw [hkind, hmanifest]
  rfl

theorem standing?_of_user {manifest : UserManifestComparisonResult}
    (hkind : connection.kind = .user) (hmanifest : connection.userManifestResult = some manifest) :
    standing? connection = some ⟨connection.isInitiator, .user,
      manifest.localMissing.unknownResources, manifest.remoteMissing.unknownResources,
      manifest.resourcesRequiringSync⟩ := by
  unfold standing?
  rw [hkind, hmanifest]
  rfl

theorem standing?_device (hkind : connection.kind = .device)
    (hstanding : standing? connection = some standing) :
    ∃ manifest, connection.deviceManifestResult = some manifest ∧
      standing = ⟨connection.isInitiator, .device, manifest.localMissing.unknownResources,
        manifest.remoteMissing.unknownResources, manifest.resourcesRequiringSync⟩ := by
  unfold standing? at hstanding
  rw [hkind] at hstanding
  obtain ⟨manifest, hmanifest, rfl⟩ := Option.map_eq_some_iff.mp hstanding
  exact ⟨manifest, hmanifest, rfl⟩

theorem standing?_user (hkind : connection.kind = .user)
    (hstanding : standing? connection = some standing) :
    ∃ manifest, connection.userManifestResult = some manifest ∧
      standing = ⟨connection.isInitiator, .user, manifest.localMissing.unknownResources,
        manifest.remoteMissing.unknownResources, manifest.resourcesRequiringSync⟩ := by
  unfold standing? at hstanding
  rw [hkind] at hstanding
  obtain ⟨manifest, hmanifest, rfl⟩ := Option.map_eq_some_iff.mp hstanding
  exact ⟨manifest, hmanifest, rfl⟩

theorem standing?_same (hstanding : standing? connection = some standing) :
    connection.isInitiator = standing.isInitiator ∧ connection.kind = standing.kind := by
  cases hkind : connection.kind with
  | device =>
      obtain ⟨_, _, rfl⟩ := standing?_device hkind hstanding
      exact ⟨rfl, rfl⟩
  | user =>
      obtain ⟨_, _, rfl⟩ := standing?_user hkind hstanding
      exact ⟨rfl, rfl⟩

def Shows (kind : ConnectionType) (moves : List SyncMove)
    (connection connection' : PeerConnection) : Prop :=
  ∃ messages, connection'.sent = connection.sent ++ messages ∧
    messages.filterMap (move? kind) = moves

namespace Shows

variable {kind : ConnectionType} {connection connection' connection'' : PeerConnection}

theorem refl (kind : ConnectionType) (connection : PeerConnection) :
    Shows kind [] connection connection :=
  ⟨[], (List.append_nil _).symm, rfl⟩

theorem trans {first second : List SyncMove} (hfirst : Shows kind first connection connection')
    (hsecond : Shows kind second connection' connection'') :
    Shows kind (first ++ second) connection connection'' := by
  obtain ⟨messages, hsent, rfl⟩ := hfirst
  obtain ⟨messages', hsent', rfl⟩ := hsecond
  exact ⟨messages ++ messages', by rw [hsent', hsent, List.append_assoc],
    List.filterMap_append.symm ▸ rfl⟩

end Shows

def Makes {α : Type} (standing standing' : Standing) (moves : List SyncMove)
    (program : Handler α) : Prop :=
  ∀ session value session', standing? session.connection = some standing →
    program.run session = (.ok value, session') →
      standing? session'.connection = some standing' ∧
        Shows standing.kind moves session.connection session'.connection

namespace Makes

variable {α β : Type} {standing standing' standing'' : Standing}
variable {first second moves : List SyncMove}

variable {continuation : α → Handler β}

theorem bind {program : Handler α} (hkind : standing'.kind = standing.kind)
    (hprogram : Makes standing standing' first program)
    (hcontinuation : ∀ value, Makes standing' standing'' second (continuation value)) :
    Makes standing standing'' (first ++ second) (program >>= continuation) := by
  intro session result session' hstanding hrun
  obtain ⟨value, middle, hfirst, hrest⟩ := Program.run_bind_eq_ok.mp hrun
  obtain ⟨hmiddle, hshows⟩ := hprogram session value middle hstanding hfirst
  obtain ⟨hafter, hshows'⟩ := hcontinuation value middle result session' hmiddle hrest
  rw [hkind] at hshows'
  exact ⟨hafter, hshows.trans hshows'⟩

theorem after {program : Handler α} (hprogram : Makes standing standing [] program)
    (hcontinuation : ∀ value, Makes standing standing' moves (continuation value)) :
    Makes standing standing' moves (program >>= continuation) :=
  hprogram.bind rfl hcontinuation

theorem of_run {program : Handler α} {continuation : α → Handler β} (value : α)
    (hprogram : ∀ session, standing? session.connection = some standing →
      ∀ result session', program.run session = (.ok result, session') →
        result = value ∧ session' = session)
    (hcontinuation : Makes standing standing' moves (continuation value)) :
    Makes standing standing' moves (program >>= continuation) := by
  intro session result session' hstanding hrun
  obtain ⟨first, middle, hfirst, hrest⟩ := Program.run_bind_eq_ok.mp hrun
  obtain ⟨rfl, rfl⟩ := hprogram session hstanding first middle hfirst
  exact hcontinuation middle result session' hstanding hrest

theorem pure (value : α) : Makes standing standing [] (Pure.pure value : Handler α) := by
  intro session result session' hstanding hrun
  cases hrun
  exact ⟨hstanding, .refl _ _⟩

theorem callService (service : Service α) : Makes standing standing []
    (Network.callService service) := by
  intro session value session' hstanding hrun
  rw [run_callService] at hrun
  cases (Prod.mk.inj hrun).2
  exact ⟨hstanding, .refl _ _⟩

theorem callServiceAs (report : ServiceError → SyncError) (service : Service α) :
    Makes standing standing [] (Network.callServiceAs report service) := by
  intro session value session' hstanding hrun
  rw [Network.callServiceAs, Program.run_mapError, run_onRepo] at hrun
  cases (Prod.mk.inj hrun).2
  exact ⟨hstanding, .refl _ _⟩

theorem getLocalUser (env : NetworkEnv) :
    Makes standing standing [] (Network.getLocalUser env) := by
  intro session value session' hstanding hrun
  unfold Network.getLocalUser at hrun
  cases huser : env.currentUser with
  | none =>
      rw [huser] at hrun
      cases hrun
  | some user =>
      rw [huser] at hrun
      cases hrun
      exact ⟨hstanding, .refl _ _⟩

theorem sendMessage {message : Message} {move : SyncMove}
    (hmessage : move? standing.kind message = some move) :
    Makes standing standing [move] (Network.sendMessage message) := by
  intro session value session' hstanding hrun
  cases hrun
  refine ⟨hstanding, [message], rfl, ?_⟩
  rw [List.filterMap_cons_some hmessage, List.filterMap_nil]

theorem emit (event : P2PEvent) : Makes standing standing [] (Network.emit event) := by
  intro session value session' hstanding hrun
  cases hrun
  exact ⟨hstanding, .refl _ _⟩

theorem readConnection {field : PeerConnection → α}
    (hcontinuation : ∀ connection, standing? connection = some standing →
      Makes standing standing' moves (continuation (field connection))) :
    Makes standing standing' moves (Network.readConnection field >>= continuation) := by
  intro session value session' hstanding hrun
  rw [Program.run_bind, run_readConnection, Program.andThen_ok] at hrun
  exact hcontinuation session.connection hstanding session value session' hstanding hrun

theorem requireManifest {entityType : String} {manifest : PeerConnection → Option α}
    (hcontinuation : ∀ connection result, standing? connection = some standing →
      manifest connection = some result →
        Makes standing standing' moves (continuation result)) :
    Makes standing standing' moves
      (Network.requireManifest entityType manifest >>= continuation) := by
  intro session value session' hstanding hrun
  cases hmanifest : manifest session.connection with
  | none =>
      rw [Program.run_bind, run_requireManifest_none hmanifest] at hrun
      cases hrun
  | some result =>
      have hread : (Network.requireManifest entityType manifest).run session =
          (.ok result, session) := by
        rw [Network.requireManifest, Program.run_read, hmanifest]
      rw [Program.run_bind, hread, Program.andThen_ok] at hrun
      exact hcontinuation session.connection result hstanding hmanifest session value session'
        hstanding hrun

theorem forEach {items : List β} {body : β → Handler PUnit} {move : β → SyncMove}
    (hbody : ∀ item, Makes standing standing [move item] (body item)) :
    Makes standing standing (items.map move) (Program.forEach items body) := by
  induction items with
  | nil => exact .pure _
  | cons item rest ih => exact (hbody item).bind rfl fun _ => ih

end Makes

structure Still (connection connection' : PeerConnection) : Prop where
  kind : connection'.kind = connection.kind
  standing : standing? connection' = standing? connection
  shows : Shows connection.kind [] connection connection'

namespace Still

theorem refl (connection : PeerConnection) : Still connection connection :=
  ⟨rfl, rfl, .refl _ _⟩

theorem trans (first second third : PeerConnection) (hfirst : Still first second)
    (hsecond : Still second third) : Still first third :=
  ⟨hsecond.kind.trans hfirst.kind, hsecond.standing.trans hfirst.standing,
    hfirst.shows.trans (hfirst.kind ▸ hsecond.shows)⟩

abbrev Keeps {α : Type} (program : Handler α) : Prop :=
  Program.Guarantees (OnConnection Still) program

theorem sendMerge {payload : ResourceUpdateMsg}
    (hmerge : ∀ kind, move? kind (.mergeUpdate payload) = none) :
    Keeps (Network.sendMessage (.mergeUpdate payload)) := by
  refine .connection_change fun _ => ⟨rfl, rfl, [.mergeUpdate payload], rfl, ?_⟩
  rw [List.filterMap_cons_none (hmerge _), List.filterMap_nil]

theorem emit (event : P2PEvent) : Keeps (Network.emit event) :=
  .connection_change fun _ => ⟨rfl, rfl, .refl _ _⟩

theorem callService {α : Type} (service : Service α) : Keeps (Network.callService service) :=
  .connection_callService refl service

theorem readConnection {α : Type} (field : PeerConnection → α) :
    Keeps (Network.readConnection field) :=
  .connection_read refl _

theorem requireUpdateAuthority (env : NetworkEnv) (resourceId token : String) :
    Keeps (Network.requireUpdateAuthority env resourceId token) :=
  .bind (readConnection _) fun _ => .bind (callService _) fun _ =>
    .ite (.fail _) (.pure _)

theorem processResourceUpdateMessage (env : NetworkEnv) (payload : ResourceUpdateMsg) :
    Keeps (Network.processResourceUpdateMessage env payload) := by
  refine .bind (.getLocalUser env) fun user => ?_
  cases payload with
  | stateVectorRequest resourceId stateVectors token =>
      refine .bind (requireUpdateAuthority env _ _) fun _ => ?_
      refine .bind (callService _) fun _ => .bind (callService _) fun _ => ?_
      exact sendMerge fun kind => by cases kind <;> rfl
  | updatesResponse resourceId updates token =>
      refine .bind (requireUpdateAuthority env _ _) fun _ => ?_
      refine .bind (callService _) fun _ => .bind (callService _) fun _ => ?_
      refine .bind (callService _) fun _ => .bind (callService _) fun _ => ?_
      refine .bind (sendMerge fun kind => by cases kind <;> rfl) fun _ => ?_
      exact .bind (readConnection _) fun _ => .bind (.getClientId _ _) fun _ => emit _
  | finalUpdateMerge resourceId updates vectorClocks shareRecords keys =>
      refine .bind (callService _) fun _ => .bind (readConnection _) fun _ => ?_
      refine .bind (.getClientId _ _) fun _ => .bind (emit _) fun _ => ?_
      refine .bind (callService _) fun _ => ?_
      refine .bind (.connection_updateRepo refl _) fun _ => ?_
      refine .bind (callService _) fun _ => .bind (callService _) fun _ => ?_
      exact sendMerge fun kind => by cases kind <;> rfl
  | vectorClockResponse resourceId updateClock addClock shareRecords keys =>
      refine .bind (callService _) fun _ => .bind (callService _) fun _ => ?_
      exact .connection_updateRepo refl _

def WhereFailed {α : Type} (program : Handler α) : Prop :=
  ∀ session error session', program.run session = (.error error, session') →
    Still session.connection session'.connection

namespace WhereFailed

variable {α β : Type}

theorem of_keeps {program : Handler α} (hprogram : Keeps program) : WhereFailed program := by
  intro session error session' hrun
  have hstill := run_keeps hprogram refl trans session
  rwa [hrun] at hstill

theorem after {program : Handler α} {continuation : α → Handler β}
    (hprogram : Keeps program) (hcontinuation : ∀ value, WhereFailed (continuation value)) :
    WhereFailed (program >>= continuation) := by
  intro session error session' hrun
  have hstill := run_keeps hprogram refl trans session
  rw [Program.run_bind] at hrun
  cases hfirst : program.run session with
  | mk outcome middle =>
      rw [hfirst] at hrun hstill
      cases outcome with
      | error _ =>
          cases hrun
          exact hstill
      | ok value => exact .trans _ _ _ hstill (hcontinuation value middle error session' hrun)

theorem sendMessage (message : Message) : WhereFailed (Network.sendMessage message) := by
  intro session error session' hrun
  cases hrun

theorem receiveUnknownFolders (payload : UnknownFoldersPayload) :
    WhereFailed (Network.receiveUnknownFolders payload) := by
  refine .after (callService _) fun _ => .after (emit _) fun _ => ?_
  refine .after (readConnection _) fun isInitiator => ?_
  split
  · exact .after (.connection_read refl _) fun _ => .after (callService _) fun _ =>
      .sendMessage _
  · exact .after (.connection_read refl _) fun _ => .after (callService _) fun _ =>
      .sendMessage _

end WhereFailed

end Still

section Handlers

variable (env : NetworkEnv) {standing : Standing}

theorem makes_sendResource (resourceId : String) :
    Makes standing standing [.resource resourceId] (sendResource env resourceId) := by
  refine .readConnection fun connection _ => ?_
  intro session value session' hstanding hrun
  rw [Program.run_bind, run_callService] at hrun
  cases hpayload : ((getResourceForRemoteAddition env.toServiceEnv resourceId
      connection.device).run session.repo).1 with
  | error error =>
      rw [hpayload] at hrun
      cases hrun
  | ok payload =>
      rw [hpayload] at hrun
      change (sendMessage (.resourceAdditionRequest payload)).run _ = _ at hrun
      have hid := getResourceForRemoteAddition_id env resourceId connection.device
        session.repo payload hpayload
      have hmove : move? standing.kind (.resourceAdditionRequest payload) =
          some (.resource resourceId) := by
        rw [← hid]
        cases standing.kind <;> rfl
      have hdone := Makes.sendMessage hmove _ value session' (by exact hstanding) hrun
      exact hdone

variable {session : Session}

theorem run_remoteMissing (hstanding : standing? session.connection = some standing) :
    remoteMissingResources.run session = (.ok standing.toSend, session) := by
  have hkind : getConnectionType.run session = (.ok session.connection.kind, session) := by
    rw [getConnectionType, run_readConnection]
  rw [remoteMissingResources, Program.run_bind, hkind, Program.andThen_ok]
  cases hconnection : session.connection.kind with
  | device =>
      obtain ⟨manifest, hmanifest, rfl⟩ := standing?_device hconnection hstanding
      have hread : getDeviceManifestResult.run session = (.ok manifest, session) := by
        rw [getDeviceManifestResult, requireManifest, Program.run_read, hmanifest]
      rw [Program.run_bind, hread]
      rfl
  | user =>
      obtain ⟨manifest, hmanifest, rfl⟩ := standing?_user hconnection hstanding
      have hread : getUserManifestResult.run session = (.ok manifest, session) := by
        rw [getUserManifestResult, requireManifest, Program.run_read, hmanifest]
      rw [Program.run_bind, hread]
      rfl

theorem run_requiringSync (hstanding : standing? session.connection = some standing) :
    resourcesRequiringSync.run session = (.ok standing.toSync, session) := by
  have hkind : getConnectionType.run session = (.ok session.connection.kind, session) := by
    rw [getConnectionType, run_readConnection]
  rw [resourcesRequiringSync, Program.run_bind, hkind, Program.andThen_ok]
  cases hconnection : session.connection.kind with
  | device =>
      obtain ⟨manifest, hmanifest, rfl⟩ := standing?_device hconnection hstanding
      have hread : getDeviceManifestResult.run session = (.ok manifest, session) := by
        rw [getDeviceManifestResult, requireManifest, Program.run_read, hmanifest]
      rw [Program.run_bind, hread]
      rfl
  | user =>
      obtain ⟨manifest, hmanifest, rfl⟩ := standing?_user hconnection hstanding
      have hread : getUserManifestResult.run session = (.ok manifest, session) := by
        rw [getUserManifestResult, requireManifest, Program.run_read, hmanifest]
      rw [Program.run_bind, hread]
      rfl

theorem makes_sendResources :
    Makes standing standing standing.sends (sendResources env) := by
  refine .of_run standing.toSend ?_ ?_
  · intro session hstanding result session' hrun
    rw [run_remoteMissing hstanding] at hrun
    cases hrun
    exact ⟨rfl, rfl⟩
  · have hsend : Makes standing standing (standing.toSend.map .resource)
        (Program.forEach standing.toSend (sendResource env)) :=
      .forEach fun resourceId => makes_sendResource env resourceId
    have hcomplete : move? standing.kind .resourceAdditionComplete = some .complete := by
      cases standing.kind <;> rfl
    unfold Standing.sends
    split
    · exact (Makes.sendMessage hcomplete).bind rfl fun _ => hsend
    · exact hsend

theorem makes_sendDeviceNetworkSync (hkind : standing.kind = .device) :
    Makes standing standing [.entities] sendDeviceNetworkSync := by
  refine .requireManifest fun connection manifest _ _ => ?_
  exact .after (.callService _) fun payload => .sendMessage (by rw [hkind]; rfl)

theorem makes_handleDeviceNetworkSync (hkind : standing.kind = .device)
    (payload : DeviceNetworkSyncPayload) :
    Makes standing standing [.entitiesAck] (handleDeviceNetworkSync payload) :=
  .after (.callService _) fun _ => .sendMessage (by rw [hkind]; rfl)

section

variable (hkind : standing.kind = .user)

include hkind

theorem makes_sendUserNetworkSync :
    Makes standing standing [.entities] (sendUserNetworkSync env) := by
  refine .requireManifest fun _ manifest _ _ => .readConnection fun connection _ => ?_
  exact .after (.callServiceAs _ _) fun payload => .sendMessage (by rw [hkind]; rfl)

theorem makes_processUserNetworkSync (payload : UserNetworkSyncPayload) :
    Makes standing standing
      (if standing.isInitiator then [.entities, .entitiesAck] else [.entitiesAck])
      (processUserNetworkSync env payload) := by
  have hrest : Makes standing standing [.entitiesAck] (do
      callServiceAs .userSyncFailed (processUserNetworkSyncPayload payload)
      sendMessage .userNetworkSyncAck) :=
    .after (.callServiceAs _ _) fun _ => .sendMessage (by rw [hkind]; rfl)
  refine .readConnection fun connection hstanding => ?_
  rw [(standing?_same hstanding).1]
  split
  · exact (makes_sendUserNetworkSync env hkind).bind rfl fun _ => hrest
  · exact hrest

theorem makes_startFolderSync : Makes standing standing [.folders] startFolderSync := by
  refine .requireManifest fun connection manifest _ _ => ?_
  split
  · exact .sendMessage (by rw [hkind]; rfl)
  · exact .after (.callService _) fun payload => .sendMessage (by rw [hkind]; rfl)

theorem makes_sendUnknownFolders : Makes standing standing [.folders] sendUnknownFolders :=
  .requireManifest fun _ manifest _ _ =>
    .after (.callService _) fun payload => .sendMessage (by rw [hkind]; rfl)

theorem makes_sendFolderRecipientSync :
    Makes standing standing [.recipients] sendFolderRecipientSync :=
  .requireManifest fun _ manifest _ _ =>
    .after (.callService _) fun payload => .sendMessage (by rw [hkind]; rfl)

theorem makes_receiveUnknownFolders (payload : UnknownFoldersPayload) :
    Makes standing standing (if standing.isInitiator then [.recipients] else [.folders])
      (receiveUnknownFolders payload) := by
  refine .after (.callService _) fun _ => .after (.emit _) fun _ => ?_
  refine .readConnection fun connection hstanding => ?_
  rw [(standing?_same hstanding).1]
  split
  · exact makes_sendFolderRecipientSync hkind
  · exact makes_sendUnknownFolders hkind

theorem makes_processFolderRecipientSync (payload : List FolderRecipientUpdate) :
    Makes standing standing
      ((if standing.isInitiator then [] else [.recipients]) ++ standing.sends)
      (processFolderRecipientSync env payload) := by
  refine .requireManifest fun _ manifest _ _ => .after (.getLocalUser env) fun _ => ?_
  refine .readConnection fun _ _ => .after (.callService _) fun _ => ?_
  refine .readConnection fun connection hstanding => ?_
  rw [(standing?_same hstanding).1]
  cases standing.isInitiator with
  | true => exact makes_sendResources env
  | false =>
      exact (makes_sendFolderRecipientSync hkind).bind rfl fun _ => makes_sendResources env

end

theorem run_removeLocalMissingResource {session' : Session} {resourceId : String} {isEmpty : Bool}
    (hstanding : standing? session.connection = some standing)
    (hrun : (removeLocalMissingResource standing.kind resourceId).run session =
      (.ok isEmpty, session')) :
    standing? session'.connection = some (standing.after (.resource resourceId)) ∧
      isEmpty = (standing.after (.resource resourceId)).toCome.isEmpty ∧
        session'.connection.sent = session.connection.sent := by
  cases hkind : session.connection.kind with
  | device =>
      obtain ⟨manifest, hmanifest, rfl⟩ := standing?_device hkind hstanding
      have hkind' : session'.connection.kind = .device := by
        cases hrun
        exact hkind
      have hinitiator : session'.connection.isInitiator = session.connection.isInitiator := by
        cases hrun
        rfl
      have hmanifest' : session'.connection.deviceManifestResult =
          session.connection.deviceManifestResult.map fun manifest =>
            { manifest with localMissing := { manifest.localMissing with
                unknownResources := manifest.localMissing.unknownResources.filter
                  fun id => id ≠ resourceId } } := by
        cases hrun
        rfl
      rw [hmanifest] at hmanifest'
      refine ⟨?_, ?_, by cases hrun; rfl⟩
      · rw [standing?_of_device hkind' hmanifest', hinitiator]
        rfl
      · cases hrun
        exact congrArg (Option.all _) hmanifest'
  | user =>
      obtain ⟨manifest, hmanifest, rfl⟩ := standing?_user hkind hstanding
      have hkind' : session'.connection.kind = .user := by
        cases hrun
        exact hkind
      have hinitiator : session'.connection.isInitiator = session.connection.isInitiator := by
        cases hrun
        rfl
      have hmanifest' : session'.connection.userManifestResult =
          session.connection.userManifestResult.map fun manifest =>
            { manifest with localMissing := { manifest.localMissing with
                unknownResources := manifest.localMissing.unknownResources.filter
                  fun id => id ≠ resourceId } } := by
        cases hrun
        rfl
      rw [hmanifest] at hmanifest'
      refine ⟨?_, ?_, by cases hrun; rfl⟩
      · rw [standing?_of_user hkind' hmanifest', hinitiator]
        rfl
      · cases hrun
        exact congrArg (Option.all _) hmanifest'

theorem makes_processResourceAdditionRequest (payload : ResourceSyncData) :
    Makes standing (standing.after (.resource payload.resource.id))
      (standing.transfers (.resource payload.resource.id))
      (processResourceAdditionRequest payload) := by
  refine .readConnection fun connection hconnection => ?_
  rw [(standing?_same hconnection).2]
  refine .after (.callService _) fun _ => .readConnection fun peer _ => ?_
  refine .after (.emit _) fun _ => ?_
  intro session value session' hstanding hrun
  obtain ⟨isEmpty, middle, hremoved, hrest⟩ := Program.run_bind_eq_ok.mp hrun
  obtain ⟨hmiddle, rfl, hsent⟩ := run_removeLocalMissingResource hstanding hremoved
  have hanswer : Makes (standing.after (.resource payload.resource.id))
      (standing.after (.resource payload.resource.id))
      (standing.transfers (.resource payload.resource.id))
      (if (standing.after (.resource payload.resource.id)).toCome.isEmpty then
        sendMessage .resourceAdditionComplete else pure .unit) := by
    have hcomplete : move? standing.kind .resourceAdditionComplete = some .complete := by
      cases standing.kind <;> rfl
    dsimp only [Standing.transfers]
    split
    · exact .sendMessage hcomplete
    · exact .pure _
  obtain ⟨hafter, hshows⟩ := hanswer middle value session' hmiddle hrest
  refine ⟨hafter, ?_⟩
  unfold Shows at hshows ⊢
  rwa [hsent] at hshows

theorem makes_requestStateVector (resourceId : String) :
    Makes standing standing [.stateVector resourceId] (requestStateVector env resourceId) := by
  refine .after (.getLocalUser env) fun user => .after (.callService _) fun _ => ?_
  refine .after (.callService _) fun _ => .sendMessage ?_
  cases standing.kind <;> rfl

theorem makes_processResourceAdditionComplete :
    Makes standing standing (standing.transfers .complete)
      (processResourceAdditionComplete env) := by
  refine .readConnection fun connection hstanding => ?_
  rw [(standing?_same hstanding).1]
  dsimp only [Standing.transfers]
  split
  · refine .of_run standing.toSync ?_ ?_
    · intro session hsession result session' hrun
      rw [run_requiringSync hsession] at hrun
      cases hrun
      exact ⟨rfl, rfl⟩
    · exact .forEach fun resourceId => makes_requestStateVector env resourceId
  · exact .pure _

theorem processMessage_makes {message : Message} {move : SyncMove}
    (hmessage : move? standing.kind message = some move) (hforeign : move ≠ .foreign)
    (hvector : move.stateVector? = none) :
    Makes standing (standing.after move) (standing.replies move)
      (processMessage env message) := by
  have hsame {moves : List SyncMove} (hreplies : standing.replies move = moves)
      (hafter : standing.after move = standing)
      (hmakes : Makes standing standing moves (processMessage env message)) :
      Makes standing (standing.after move) (standing.replies move)
        (processMessage env message) := by
    rwa [hreplies, hafter]
  have hreplies : standing.replies move =
      move.phases standing.kind standing.isInitiator ++ standing.transfers move := rfl
  cases hkind : standing.kind with
  | device =>
      rw [hkind] at hmessage hreplies
      cases message with
      | deviceManifestAck =>
          cases hmessage
          refine hsame (hreplies.trans ?_) rfl (makes_sendDeviceNetworkSync hkind)
          simp [Standing.transfers, SyncMove.phases, SyncMove.opener, hkind]
      | deviceNetworkSync payload =>
          cases hmessage
          refine hsame (hreplies.trans ?_) rfl (makes_handleDeviceNetworkSync hkind payload)
          simp [Standing.transfers, SyncMove.phases, SyncMove.opener, hkind]
      | deviceNetworkSyncAck =>
          cases hmessage
          refine hsame (hreplies.trans ?_) rfl (makes_sendResources env)
          simp [Standing.transfers, SyncMove.phases, SyncMove.opener, hkind]
      | resourceAdditionRequest payload =>
          cases hmessage
          exact makes_processResourceAdditionRequest payload
      | resourceAdditionComplete =>
          cases hmessage
          exact makes_processResourceAdditionComplete env
      | mergeUpdate payload =>
          cases payload <;> cases hmessage
          cases hvector
      | _ =>
          cases hmessage
          exact absurd rfl hforeign
  | user =>
      rw [hkind] at hmessage hreplies
      cases message with
      | userManifestPayload payload =>
          cases payload with
          | ack =>
              cases hmessage
              refine hsame (hreplies.trans ?_) rfl (makes_sendUserNetworkSync env hkind)
              simp [Standing.transfers, SyncMove.phases, SyncMove.opener, hkind]
          | _ =>
              cases hmessage
              exact absurd rfl hforeign
      | userNetworkSync payload =>
          cases hmessage
          refine hsame (hreplies.trans ?_) rfl
            (makes_processUserNetworkSync env hkind payload)
          simp [Standing.transfers, SyncMove.phases, SyncMove.opener, hkind]
      | userNetworkSyncAck =>
          cases hmessage
          refine hsame (hreplies.trans ?_) rfl (makes_startFolderSync hkind)
          simp [Standing.transfers, SyncMove.phases, SyncMove.opener, hkind]
      | folderSync payload =>
          cases payload with
          | unknownFoldersPayload payload =>
              cases hmessage
              refine hsame (hreplies.trans ?_) rfl (makes_receiveUnknownFolders hkind payload)
              simp [Standing.transfers, SyncMove.phases, SyncMove.opener, hkind]
          | folderRecipientSyncPayload payload =>
              cases hmessage
              refine hsame (hreplies.trans ?_) rfl
                (makes_processFolderRecipientSync env hkind payload)
              simp [Standing.transfers, SyncMove.phases, SyncMove.opener, hkind]
      | resourceAdditionRequest payload =>
          cases hmessage
          exact makes_processResourceAdditionRequest payload
      | resourceAdditionComplete =>
          cases hmessage
          exact makes_processResourceAdditionComplete env
      | mergeUpdate payload =>
          cases payload <;> cases hmessage
          cases hvector
      | _ =>
          cases hmessage
          exact absurd rfl hforeign

def MayMiss (kind : ConnectionType) (isInitiator : Bool) (message : Message) : Prop :=
  (∃ payload, message = .mergeUpdate payload) ∨
    isInitiator = false ∧ move? kind message = some .folders

theorem still_of_mayMiss {kind : ConnectionType} {isInitiator : Bool} {message : Message}
    (hmayMiss : MayMiss kind isInitiator message) {session' : Session} {error : P2PError}
    (hrun : (processMessage env message).run session = (.error error, session')) :
    Still session.connection session'.connection := by
  rcases hmayMiss with ⟨payload, rfl⟩ | ⟨_, hfolders⟩
  · exact Still.WhereFailed.of_keeps (Still.processResourceUpdateMessage env payload) session
      error session' hrun
  · cases kind with
    | device =>
        cases message with
        | mergeUpdate payload => cases payload <;> cases hfolders
        | _ => cases hfolders
    | user =>
        cases message with
        | folderSync payload =>
            cases payload with
            | unknownFoldersPayload payload =>
                exact Still.WhereFailed.receiveUnknownFolders payload session error session'
                  hrun
            | folderRecipientSyncPayload payload => cases hfolders
        | userManifestPayload payload => cases payload <;> cases hfolders
        | mergeUpdate payload => cases payload <;> cases hfolders
        | _ => cases hfolders

end Handlers

end Osvauld.Network
