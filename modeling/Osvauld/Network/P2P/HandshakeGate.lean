import Osvauld.Network.P2P.ConnectionChanges
import Osvauld.Network.P2P.UpdateGate

namespace Osvauld.Network

open Osvauld.Core Data Persistance

/-! What a connection does with messages before its handshake is complete. -/

def Session.withPeer (session : Session) (user : User) (device : Device) :
    Session :=
  { session with connection := { session.connection with user, device } }

def Session.withEvents (session : Session) (events : List P2PEvent) : Session :=
  { session with
    connection := { session.connection with
      events := session.connection.events ++ events } }

def CarriesContent : Message → Prop
  | .ping | .pong | .error | .retryRequest => False
  | .deviceManifestAck | .deviceNetworkSyncAck | .userNetworkSyncAck => False
  | .resourceAdditionComplete => False
  | .userManifestPayload .ack => False
  | _ => True

/-- The gate: the message changes no table, brings out nothing that is stored
and is treated alike whoever the peer is. -/
structure Gated (env : NetworkEnv) (message : Message) (session : Session) :
    Prop where
  repo_eq : (receive env message session).repo = session.repo
  sent : ∃ new, (receive env message session).connection.sent =
      session.connection.sent ++ new ∧ ∀ reply ∈ new, ¬CarriesContent reply
  anonymous : ∀ user device, receive env message (session.withPeer user device) =
    (receive env message session).withPeer user device

def Harmless (isInitiator : Bool) : Message → Prop
  | .ping | .pong | .error => True
  | .deviceManifestAck | .deviceNetworkSyncAck | .userNetworkSyncAck => True
  | .resourceAdditionComplete => True
  | .userManifestPayload .ack => True
  | .folderSync (.folderRecipientSyncPayload _) => True
  | .retryRequest => isInitiator = false
  | .userNetworkSync _ => isInitiator = true
  | _ => False

def reported : Except P2PError PUnit → List P2PEvent
  | .ok _ => []
  | .error error =>
      [.error "Error processing message: " (some error) "message_handler"]

variable {session : Session}

theorem receive_of_run {env : NetworkEnv} {message : Message} {session' : Session}
    {outcome : Except P2PError PUnit}
    (hrun : (processMessage env message).run session = (outcome, session')) :
    receive env message session = session'.withEvents (reported outcome) := by
  cases outcome <;>
    simp [receive, handleMessage, hrun, Session.withEvents, reported, emit]

def manifestMissing : ConnectionType → P2PError
  | .device => .sync (.manifestNotFound "device")
  | .user => .sync (.manifestNotFound "user")

section NoManifest

variable {session : Session}
variable (hdevice : session.connection.deviceManifestResult = none)
variable (huser : session.connection.userManifestResult = none)

include hdevice in
theorem getDeviceManifestResult_none :
    getDeviceManifestResult.run session =
      (.error (manifestMissing .device), session) :=
  run_requireManifest_none hdevice

include huser in
theorem getUserManifestResult_none :
    getUserManifestResult.run session =
      (.error (manifestMissing .user), session) :=
  run_requireManifest_none huser

include hdevice huser

theorem remoteMissingResources_none :
    remoteMissingResources.run session =
      (.error (manifestMissing session.connection.kind), session) := by
  unfold remoteMissingResources getConnectionType
  cases hkind : session.connection.kind <;>
    simp [hkind, getDeviceManifestResult_none hdevice,
      getUserManifestResult_none huser]

theorem resourcesRequiringSync_none :
    resourcesRequiringSync.run session =
      (.error (manifestMissing session.connection.kind), session) := by
  unfold resourcesRequiringSync getConnectionType
  cases hkind : session.connection.kind <;>
    simp [hkind, getDeviceManifestResult_none hdevice,
      getUserManifestResult_none huser]

end NoManifest

/-- How a harmless message ends while there is no comparison. -/
def harmlessOutcome (isInitiator : Bool) (kind : ConnectionType) :
    Message → Except P2PError PUnit
  | .deviceManifestAck => .error (manifestMissing .device)
  | .deviceNetworkSyncAck => .error (manifestMissing kind)
  | .resourceAdditionComplete =>
      if isInitiator then .error (manifestMissing kind) else .ok .unit
  | .userManifestPayload _ | .userNetworkSyncAck => .error (manifestMissing .user)
  | .userNetworkSync _ | .folderSync _ => .error (manifestMissing .user)
  | _ => .ok .unit

theorem harmless_run (env : NetworkEnv) {message : Message} {session : Session}
    (hharmless : Harmless session.connection.isInitiator message)
    (herror : message ≠ .error)
    (hdevice : session.connection.deviceManifestResult = none)
    (huser : session.connection.userManifestResult = none) :
    (processMessage env message).run session =
      (harmlessOutcome session.connection.isInitiator session.connection.kind
        message, session) := by
  cases message with
  | ping => rfl
  | pong => rfl
  | error => exact absurd rfl herror
  | deviceManifestAck =>
      simp [processMessage, handleManifestAck, sendDeviceNetworkSync,
        getDeviceManifestResult_none hdevice, harmlessOutcome]
  | deviceNetworkSyncAck =>
      simp [processMessage, sendResources,
        remoteMissingResources_none hdevice huser, harmlessOutcome]
  | resourceAdditionComplete =>
      cases hinitiator : session.connection.isInitiator <;>
        simp [processMessage, processResourceAdditionComplete, hinitiator,
          resourcesRequiringSync_none hdevice huser, harmlessOutcome]
  | userManifestPayload payload =>
      cases payload with
      | ack =>
          simp [processMessage, processUserManifestPayload, sendUserNetworkSync,
            getUserManifestResult_none huser, harmlessOutcome]
      | request => exact hharmless.elim
      | response => exact hharmless.elim
  | userNetworkSync payload =>
      have hinitiator : session.connection.isInitiator = true := hharmless
      simp [processMessage, processUserNetworkSync, hinitiator,
        sendUserNetworkSync, getUserManifestResult_none huser, harmlessOutcome]
  | userNetworkSyncAck =>
      simp [processMessage, startFolderSync, getUserManifestResult_none huser,
        harmlessOutcome]
  | folderSync message =>
      cases message with
      | folderRecipientSyncPayload payload =>
          simp [processMessage, processFolderSyncMessage,
            processFolderRecipientSync, getUserManifestResult_none huser,
            harmlessOutcome]
      | unknownFoldersPayload => exact hharmless.elim
  | retryRequest =>
      have hinitiator : session.connection.isInitiator = false := hharmless
      simp [processMessage, startUserNetworkSync, hinitiator, harmlessOutcome]
  | mergeUpdate | liveEdit | deviceManifestRequest | deviceManifestResponse
  | deviceNetworkSync | resourceAdditionRequest | handshake =>
      exact hharmless.elim

theorem harmless_receive (env : NetworkEnv) {message : Message}
    {session : Session}
    (hharmless : Harmless session.connection.isInitiator message)
    (hdevice : session.connection.deviceManifestResult = none)
    (huser : session.connection.userManifestResult = none) :
    ∃ events, ∀ user device, receive env message (session.withPeer user device) =
      (session.withPeer user device).withEvents events := by
  by_cases herror : message = .error
  · subst herror
    refine ⟨[.error "Received error message from peer" none "peer"],
      fun user device => ?_⟩
    simp [receive, handleMessage, processMessage, emit, Session.withEvents]
  · refine ⟨reported (harmlessOutcome session.connection.isInitiator
      session.connection.kind message), fun user device => ?_⟩
    exact receive_of_run (@harmless_run env message (session.withPeer user device)
      hharmless herror hdevice huser)

theorem gated_of_harmless (env : NetworkEnv) {message : Message}
    (hharmless : Harmless session.connection.isInitiator message)
    (hdevice : session.connection.deviceManifestResult = none)
    (huser : session.connection.userManifestResult = none) : Gated env message session := by
  obtain ⟨events, hreceive⟩ := harmless_receive env hharmless hdevice huser
  have hself : receive env message session = session.withEvents events :=
    hreceive session.connection.user session.connection.device
  refine ⟨by rw [hself]; rfl, ⟨[], by rw [hself]; simp [Session.withEvents],
    by simp⟩, fun user device => ?_⟩
  rw [hself, hreceive]
  rfl

structure Settled (connection connection' : PeerConnection) : Prop where
  isInitiator_eq : connection'.isInitiator = connection.isInitiator
  complete : connection.handshakeComplete = true →
    connection'.handshakeComplete = true

structure SameManifests (connection connection' : PeerConnection) : Prop where
  device_eq : connection'.deviceManifestResult = connection.deviceManifestResult
  user_eq : connection'.userManifestResult = connection.userManifestResult

theorem settled_allowsEverything : AllowsEverything (fun _ => True) Settled :=
  { refl := fun _ => ⟨rfl, id⟩
    sent := fun _ _ _ => ⟨rfl, id⟩
    introduce := fun _ _ _ => ⟨rfl, id⟩
    events := fun _ _ => ⟨rfl, id⟩
    peer := fun _ _ _ => ⟨rfl, id⟩
    connectionType := fun _ _ => ⟨rfl, id⟩
    complete := fun _ => ⟨rfl, fun _ => rfl⟩
    deviceManifest := fun _ _ => ⟨rfl, id⟩
    userManifest := fun _ _ => ⟨rfl, id⟩ }

theorem sameManifests_allowsHandshake :
    AllowsHandshake (fun _ => True) SameManifests :=
  { refl := fun _ => ⟨rfl, rfl⟩
    sent := fun _ _ _ => ⟨rfl, rfl⟩
    introduce := fun _ _ _ => ⟨rfl, rfl⟩
    events := fun _ _ => ⟨rfl, rfl⟩
    peer := fun _ _ _ => ⟨rfl, rfl⟩
    connectionType := fun _ _ => ⟨rfl, rfl⟩
    complete := fun _ => ⟨rfl, rfl⟩ }

theorem run_settled {α : Type} {program : Handler α}
    (hprogram : Program.Guarantees (OnConnection Settled) program)
    (session : Session) :
    Settled session.connection (program.run session).2.connection :=
  run_keeps hprogram settled_allowsEverything.refl
    (fun _ _ _ hfirst hsecond => ⟨hsecond.isInitiator_eq.trans hfirst.isInitiator_eq,
      fun hcomplete => hsecond.complete (hfirst.complete hcomplete)⟩) session

theorem run_sameManifests {α : Type} {program : Handler α}
    (hprogram : Program.Guarantees (OnConnection SameManifests) program)
    (session : Session) :
    SameManifests session.connection (program.run session).2.connection :=
  run_keeps hprogram sameManifests_allowsHandshake.refl
    (fun _ _ _ hfirst hsecond => ⟨hsecond.device_eq.trans hfirst.device_eq,
      hsecond.user_eq.trans hfirst.user_eq⟩) session

theorem step_settled (event : ConnectionEvent) (session : Session) :
    Settled session.connection (event.step session).connection := by
  have hall := settled_allowsEverything
  cases event with
  | deliver env message =>
      obtain ⟨events, heq⟩ := receive_eq env message session
      have hrun := run_settled (processMessage_allowed hall env
        (fun _ _ => trivial) message) session
      rw [ConnectionEvent.step, heq]
      exact ⟨hrun.isInitiator_eq, hrun.complete⟩
  | initiate env connectionType currentUser currentDevice =>
      exact run_settled (initiateHandshake_allowed hall.toAllowsInitiation env
        connectionType currentDevice trivial) session
  | resync env =>
      exact run_settled (startUserNetworkSync_allowed hall.toAllowsTalk env) session
  | elsewhere repo => exact hall.refl _

structure NotStarted (isInitiator : Bool) (session : Session) : Prop where
  isInitiator_eq : session.connection.isInitiator = isInitiator
  noManifest : session.connection.handshakeComplete = false →
    session.connection.deviceManifestResult = none ∧
      session.connection.userManifestResult = none

theorem NotStarted.of_sameManifests {isInitiator : Bool} {session' : Session}
    (hstart : NotStarted isInitiator session)
    (hsettled : Settled session.connection session'.connection)
    (hsame : session.connection.handshakeComplete = false →
      SameManifests session.connection session'.connection) : NotStarted isInitiator session' := by
  refine ⟨hsettled.isInitiator_eq.trans hstart.isInitiator_eq, fun hopen => ?_⟩
  have hbefore : session.connection.handshakeComplete = false := by
    by_contra hcomplete
    rw [hsettled.complete (by simpa using hcomplete)] at hopen
    cases hopen
  have hmanifests := hsame hbefore
  rw [hmanifests.device_eq, hmanifests.user_eq]
  exact hstart.noManifest hbefore

def Quiet (message : Message) (session : Session) : Prop :=
  session.connection.handshakeComplete = false →
    IsHandshake message ∨ Harmless session.connection.isInitiator message

theorem step_notStarted {isInitiator : Bool} {event : ConnectionEvent}
    (hstart : NotStarted isInitiator session)
    (hquiet : ∀ env message, event = .deliver env message → Quiet message session) :
    NotStarted isInitiator (event.step session) := by
  refine hstart.of_sameManifests (step_settled event session) fun hopen => ?_
  have hshake := sameManifests_allowsHandshake
  obtain ⟨hdevice, huser⟩ := hstart.noManifest hopen
  cases event with
  | deliver env message =>
      rcases hquiet env message rfl hopen with hhandshake | hharmless
      · cases message with
        | handshake payload =>
            obtain ⟨events, heq⟩ := receive_eq env (.handshake payload) session
            have hrun := run_sameManifests
              (handleHandshakeMessage_allowed hshake env
              (fun _ _ => trivial) payload) session
            rw [ConnectionEvent.step, heq]
            exact ⟨hrun.device_eq, hrun.user_eq⟩
        | _ => exact hhandshake.elim
      · obtain ⟨events, hreceive⟩ :=
          harmless_receive env hharmless hdevice huser
        have hself : receive env message session = session.withEvents events :=
          hreceive session.connection.user session.connection.device
        rw [ConnectionEvent.step, hself]
        exact ⟨rfl, rfl⟩
  | initiate env connectionType currentUser currentDevice =>
      exact run_sameManifests (initiateHandshake_allowed hshake.toAllowsInitiation env
        connectionType currentDevice trivial) session
  | resync env =>
      exact run_sameManifests
        (startUserNetworkSync_allowed hshake.toAllowsTalk env) session
  | elsewhere repo => exact hshake.refl _

/-- In a run in which the peer sends only handshake messages and harmless ones
until the handshake is complete, every other message is gated until then. -/
theorem open_handshake_gated
    (nodeId remoteDeviceId : String) (isInitiator : Bool)
    (action : Option ConnectionAction) (connectionType : Option ConnectionType)
    (localUser : User) (localDevice : Device) (events : List ConnectionEvent)
    (start : Session)
    (hstart : start.connection = .new nodeId remoteDeviceId isInitiator action
      connectionType localUser localDevice)
    (hquiet : ∀ earlier env message, earlier ++ [.deliver env message] <+: events →
      Quiet message (afterEvents start earlier)) :
    ∀ earlier env message, earlier ++ [.deliver env message] <+: events →
      (afterEvents start earlier).connection.handshakeComplete = false →
        ¬IsHandshake message → Gated env message (afterEvents start earlier) := by
  have hinvariant : ∀ earlier, earlier <+: events →
      NotStarted isInitiator (afterEvents start earlier) := by
    refine @run_invariant _ _ _ _ _
      (fun _ session => NotStarted isInitiator session) ?_ ?_
    · refine ⟨?_, fun _ => ?_⟩ <;> simp [hstart, PeerConnection.new]
    · intro earlier event hearlier hbefore
      exact step_notStarted hbefore fun env message hevent =>
        hquiet earlier env message (hevent ▸ hearlier)
  intro earlier env message hearlier hopen hother
  obtain ⟨hdevice, huser⟩ := (hinvariant earlier
    ((List.prefix_append _ _).trans hearlier)).noManifest hopen
  rcases hquiet earlier env message hearlier hopen with hhandshake | hharmless
  · exact absurd hhandshake hother
  · exact gated_of_harmless env hharmless hdevice huser

def strangerSession : Session :=
  { repo := ownerStore
    connection := .new "node-X" "dev-X" false none none (.sample "R")
      (.sample "dev-R" "R") }

def strangerEvents : List ConnectionEvent :=
  [.deliver ownerEnv .ping, .deliver ownerEnv .userNetworkSyncAck]

theorem stranger_quiet (earlier : List ConnectionEvent) (env : NetworkEnv)
    (message : Message) (hearlier : earlier ++ [.deliver env message] <+: strangerEvents) :
    Quiet message (afterEvents strangerSession earlier) := by
  rcases earlier with _ | ⟨first, _ | ⟨second, rest⟩⟩
  · simp only [strangerEvents, List.nil_append, List.cons_prefix_cons,
      ConnectionEvent.deliver.injEq] at hearlier
    exact fun _ => .inr (hearlier.1.2 ▸ trivial)
  · simp only [strangerEvents, List.cons_append, List.nil_append,
      List.cons_prefix_cons, ConnectionEvent.deliver.injEq] at hearlier
    exact fun _ => .inr (hearlier.2.1.2 ▸ trivial)
  · simp [strangerEvents] at hearlier

theorem open_handshake_gated_stranger :
    Gated ownerEnv .userNetworkSyncAck
      (afterEvents strangerSession [.deliver ownerEnv .ping]) :=
  open_handshake_gated "node-X" "dev-X" false none none (.sample "R")
    (.sample "dev-R" "R") strangerEvents strangerSession rfl stranger_quiet
    [.deliver ownerEnv .ping] ownerEnv .userNetworkSyncAck List.prefix_rfl rfl id

/-- A merge that a stranger sends at once is stored before any handshake. -/
theorem open_handshake_merge_stored :
    strangerSession.connection.handshakeComplete = false ∧
      ¬IsHandshake (.mergeUpdate mergeNote) ∧
        ¬Gated ownerEnv (.mergeUpdate mergeNote) strangerSession := by
  refine ⟨rfl, id, fun hgated => ?_⟩
  exact absurd (congrArg RepositoryContext.shareRecords hgated.repo_eq)
    (by decide +kernel)

end Osvauld.Network
