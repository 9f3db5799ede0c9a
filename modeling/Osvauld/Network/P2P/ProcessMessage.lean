import Osvauld.Data.Run
import Osvauld.Network.P2P.ResourceSync
import Osvauld.Network.P2P.Handshake

namespace Osvauld.Network

open Osvauld.Core Data Persistance

variable (env : NetworkEnv)

/-! What a connection does with a message, and over a sequence of them. -/

def processMessage (message : Message) : Handler PUnit :=
  match message with
  | .ping => pure .unit
  | .pong => pure .unit
  | .error => emit (.error "Received error message from peer" none "peer")
  | .mergeUpdate payload => processResourceUpdateMessage env payload
  | .liveEdit payload => handleLiveEditFlow env payload
  | .deviceManifestRequest payload => handleManifestRequest payload
  | .deviceManifestResponse payload => handleManifestResponse payload
  | .deviceNetworkSync payload => handleDeviceNetworkSync payload
  | .deviceManifestAck => handleManifestAck
  | .deviceNetworkSyncAck => sendResources env
  | .resourceAdditionRequest payload => processResourceAdditionRequest payload
  | .resourceAdditionComplete => processResourceAdditionComplete env
  | .userManifestPayload payload => processUserManifestPayload env payload
  | .userNetworkSync payload => processUserNetworkSync env payload
  | .userNetworkSyncAck => startFolderSync
  | .retryRequest => startUserNetworkSync env
  | .handshake payload => handleHandshakeMessage env payload
  | .folderSync payload => processFolderSyncMessage env payload

def handleMessage (message : Message) : Handler PUnit := do
  let result ← (processMessage env message).attempt
  match result with
  | .ok .unit => return
  | .error error =>
      emit (.error "Error processing message: " (some error) "message_handler")

def receive (message : Message) (session : Session) : Session :=
  ((handleMessage env message).run session).2

theorem receive_eq (message : Message) (session : Session) :
    ∃ events, receive env message session =
      { repo := ((processMessage env message).run session).2.repo
        connection :=
          { ((processMessage env message).run session).2.connection with
            events } } := by
  unfold receive handleMessage
  simp only [Program.run_bind, Program.run_attempt, Program.andThen_ok]
  cases ((processMessage env message).run session).1 with
  | ok value => exact ⟨_, rfl⟩
  | error error => exact ⟨_, rfl⟩

@[simp] theorem receive_repo (message : Message) (session : Session) :
    (receive env message session).repo =
      ((processMessage env message).run session).2.repo := by
  obtain ⟨events, heq⟩ := receive_eq env message session
  rw [heq]

@[simp] theorem receive_user (message : Message) (session : Session) :
    (receive env message session).connection.user =
      ((processMessage env message).run session).2.connection.user := by
  obtain ⟨events, heq⟩ := receive_eq env message session
  rw [heq]

@[simp] theorem receive_sent (message : Message) (session : Session) :
    (receive env message session).connection.sent =
      ((processMessage env message).run session).2.connection.sent := by
  obtain ⟨events, heq⟩ := receive_eq env message session
  rw [heq]

/-- What happens on a connection and around it: a message arrives, this end
starts the handshake or asks again for a synchronization, or the rest of the
program has changed the store. -/
inductive ConnectionEvent where
  | deliver (env : NetworkEnv) (message : Message)
  | initiate (env : NetworkEnv) (connectionType : ConnectionType)
      (currentUser : User) (currentDevice : Device)
  | resync (env : NetworkEnv)
  | elsewhere (repo : RepositoryContext)

def ConnectionEvent.step : ConnectionEvent → Session → Session
  | .deliver env message, session => receive env message session
  | .initiate env connectionType currentUser currentDevice, session =>
      ((initiateHandshake env connectionType currentUser currentDevice).run
        session).2
  | .resync env, session => ((startUserNetworkSync env).run session).2
  | .elsewhere repo, session => { session with repo }

abbrev afterEvents (start : Session) (events : List ConnectionEvent) : Session :=
  run ConnectionEvent.step start events

theorem afterEvents_concat (start : Session) (earlier : List ConnectionEvent)
    (event : ConnectionEvent) :
    afterEvents start (earlier ++ [event]) =
      event.step (afterEvents start earlier) := run_concat earlier event

def noteTokens : List (String × CryptoUtils.Ucan) :=
  [("grant-a", { issuer := "did:key:z..R", audience := "did:key:z..P"
                 capabilities := [⟨"livnote:resource:a", "crud/update"⟩] })]

def ownerEnv : NetworkEnv :=
  .tabled noteTokens (.sample "R") (.sample "dev-R" "R")

def ownNote : Resource :=
  .new "a" 0 .notes (.sealed "k" (.encoded (.object
    [("main_doc", .ofBytes [1])]))) "folder" "" "R"

def ownerStore : RepositoryContext :=
  { users := [.sample "R", .sample "P"]
    devices := [.sample "dev-R" "R", .sample "dev-P" "P"]
    folders := [.sample "folder"]
    resources := [ownNote]
    resourceKeys := [.new "key-R" 0 "a" "R" (.sealed "R" "k") true]
    shareRecords := [.prepareShareRecord "share-R" 0 "a" "R" "R" .admin "own-a"
      "own-a"]
    vectorClocks := [.ofDomain (.new "clock-R" 0 "a" "dev-R" 1)] }

def peerConnection : PeerConnection :=
  .new "node-P" "dev-P" false none none (.sample "P") (.sample "dev-P" "P")

def ownerSession : Session := { repo := ownerStore, connection := peerConnection }

end Osvauld.Network
