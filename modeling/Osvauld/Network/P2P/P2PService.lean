import Mathlib.Data.Finset.Erase
import Mathlib.Data.Finset.Insert
import Osvauld.CryptoUtils.KeyManagement
import Osvauld.Network.P2P.Node

namespace Osvauld.Network

open Osvauld.Core CryptoUtils Data Persistance

/-! The connections of a node, by the id of the node at the other end. Each
method takes one step for each lock it takes. -/

structure ConnectionManager where
  connections : String → Option Nat := fun _ => none
  connecting : Finset String := ∅
  pendingLiveEditRequests : Finset String := ∅

namespace ConnectionManager

variable {ε : Type}

def getPeerConnection (connectionId : String) : Program ConnectionManager String Nat :=
  Program.read fun manager =>
    match manager.connections connectionId with
    | some connection => .ok connection
    | none => .error ("Connection not found: " ++ connectionId)

/-- The second lock is taken under the first. -/
def isConnectionActive (connectionId : String) : Program ConnectionManager ε Bool :=
  Program.read fun manager =>
    .ok ((manager.connections connectionId).isSome ||
      decide (connectionId ∈ manager.connecting))

/-- The second lock of `markAsConnecting`, taken after the first is released. -/
def enterConnecting (connectionId : String) : Program ConnectionManager String PUnit :=
  Program.write fun manager =>
    if connectionId ∈ manager.connecting then
      .error ("Connection already in connecting state: " ++ connectionId)
    else .ok { manager with connecting := insert connectionId manager.connecting }

def markAsConnecting (connectionId : String) : Program ConnectionManager String PUnit := do
  let established ← Program.read fun manager =>
    .ok (manager.connections connectionId).isSome
  if established then
    Program.fail ("Connection already established: " ++ connectionId)
  else enterConnecting connectionId

def removeFromConnecting (connectionId : String) : Program ConnectionManager ε PUnit :=
  Program.write fun manager =>
    .ok { manager with connecting := manager.connecting.erase connectionId }

def insertConnection (connectionId : String) (connection : Nat) :
    Program ConnectionManager String PUnit := do
  removeFromConnecting connectionId
  Program.write fun manager =>
    .ok { manager with
      connections := Function.update manager.connections connectionId (some connection) }

def removeConnection (connectionId : String) : Program ConnectionManager String PUnit :=
  Program.write fun manager =>
    if (manager.connections connectionId).isSome then
      .ok { manager with connections := Function.update manager.connections connectionId none }
    else .error ("Connection not found: " ++ connectionId)

def addPendingLiveEditRequest (connectionId : String) : Program ConnectionManager ε PUnit :=
  Program.write fun manager =>
    .ok { manager with
      pendingLiveEditRequests := insert connectionId manager.pendingLiveEditRequests }

def getAndClearPendingLiveEditRequests (connectionId : String) :
    Program ConnectionManager ε Bool :=
  Program.atomically fun manager =>
    (.ok (decide (connectionId ∈ manager.pendingLiveEditRequests)),
      { manager with
        pendingLiveEditRequests := manager.pendingLiveEditRequests.erase connectionId })

end ConnectionManager

/-! The service over them, once it is initialized. The lock that a call holds on
the whole state while it opens a connection is left out: the calls here interleave
in more ways than those of the source. -/

open ConnectionManager

structure P2PState where
  node : Node
  /-- How many connections there have been; the next one gets this number. -/
  opened : Nat
  manager : ConnectionManager
  isLiveEdit : Nat → Bool
  emitted : List P2PEvent

inductive ConnectionError where
  | establishmentFailed (nodeId reason : String)
  | alreadyExists (connectionId : String)
  | invalidNodeId (nodeId : String)
  | alreadyConnecting (connectionId : String)
  | remoteNodeIdError (message : String)
deriving DecidableEq, Repr

inductive P2PServiceError where
  | connection (error : ConnectionError)
  | configuration (message : String)
  | p2p (error : P2PError)
deriving DecidableEq, Repr

structure Connection where
  remoteNodeId : Except String String
  /-- The other end's key, written as device ids are. -/
  remoteDeviceId : String

structure P2PServiceEnv extends NetworkEnv where
  nodeIdFromStr : String → Option String
  nodeIdFromBytes : Bytes → Except String String
  connect : (nodeId : String) → Except String Connection

abbrev P2PCall (α : Type) := Program P2PState P2PServiceError α

def onManager {α ε : Type} (program : Program ConnectionManager ε α) :
    Program P2PState ε α :=
  program.zoom P2PState.manager fun manager state => { state with manager }

def P2PState.session (connection : Nat) (state : P2PState) : Session :=
  state.node.session connection

def P2PState.withSession (connection : Nat) (session : Session) (state : P2PState) : P2PState :=
  { state with node := state.node.withSession connection session }

def onPeer (connection : Nat) (handler : Handler PUnit) : P2PCall PUnit :=
  (handler.zoom (P2PState.session connection) (P2PState.withSession connection)).mapError .p2p

def emitEvent (event : P2PEvent) : P2PCall PUnit :=
  Program.write fun state => .ok { state with emitted := state.emitted ++ [event] }

def newPeerConnection (connection : PeerConnection) (isLiveEdit : Bool) : P2PCall Nat :=
  Program.atomically fun state =>
    (.ok state.opened,
      { state with
        node := { state.node with
          connections := Function.update state.node.connections state.opened connection }
        opened := state.opened + 1
        isLiveEdit := Function.update state.isLiveEdit state.opened isLiveEdit })

def deriveNodeIdFromPublicKey (encodings : Encodings) (publicKeyB64 : String) :
    CryptoResult Bytes := do
  let publicKeyBytes ← (encodings.base64Decode publicKeyB64).mapError fun message =>
    .other ("Failed to decode public key: " ++ message)
  if publicKeyBytes.length ≠ 32 then
    .error (.other ("Invalid public key length: expected 32 bytes, got " ++
      toString publicKeyBytes.length))
  else return publicKeyBytes

variable (env : P2PServiceEnv)

def getCurrentUser : P2PCall User :=
  match env.currentUser with
  | some user => pure user
  | none => Program.fail (.p2p (.invalidState "No current user set"))

def getCurrentDevice : P2PCall Device :=
  match env.currentDevice with
  | some device => pure device
  | none => Program.fail (.p2p (.invalidState "No current device set"))

def nodeOfTicket (deviceOrNodeId : String) : Except P2PServiceError String :=
  match env.nodeIdFromStr deviceOrNodeId with
  | some nodeId => .ok nodeId
  | none => do
      let nodeIdBytes ← (deriveNodeIdFromPublicKey env.libraries.ucan.encodings
        deviceOrNodeId).mapError fun error => .p2p (.crypto error)
      (env.nodeIdFromBytes nodeIdBytes).mapError fun nodeId =>
        .connection (.invalidNodeId nodeId)

def performHandshakeAndCreatePeer (conn : Connection) (isInitiator : Bool)
    (connectionType : Option ConnectionType) (action : Option ConnectionAction) :
    P2PCall Nat := do
  let localDevice ← getCurrentDevice env
  let localUser ← getCurrentUser env
  let peerNodeId ← Program.ofExcept (conn.remoteNodeId.mapError fun message =>
    .connection (.remoteNodeIdError message))
  let isLiveEdit ← onManager (getAndClearPendingLiveEditRequests peerNodeId)
  let peerConnection ← newPeerConnection
    (.new peerNodeId conn.remoteDeviceId isInitiator action connectionType localUser localDevice)
    isLiveEdit
  (onManager (insertConnection peerNodeId peerConnection)).mapError fun connectionId =>
    .connection (.alreadyExists connectionId)
  if isInitiator then
    match connectionType, action with
    | none, _ =>
        Program.fail (.configuration "Connection type must be specified for initiator")
    | some _, none =>
        Program.fail (.configuration "Connection action must be specified for initiator")
    | some connectionType, some _ =>
        onPeer peerConnection (initiateHandshake env.toNetworkEnv connectionType localUser
          localDevice)
  return peerConnection

def askExisting (connectionId : String) (existingConnection : Nat)
    (action : ConnectionAction) : P2PCall PUnit :=
  match action with
  | .liveEdit => emitEvent (.liveEditConnected connectionId)
  | _ => do
      let isInitiator ← Program.read fun state =>
        .ok (state.node.connections existingConnection).isInitiator
      if isInitiator then
        onPeer existingConnection (startUserNetworkSync env.toNetworkEnv)
      else onPeer existingConnection (sendMessage .retryRequest)

def useActiveConnection (connectionId : String) (action : Option ConnectionAction) :
    P2PCall (Option Nat) := do
  match ← (onManager (getPeerConnection connectionId)).attempt with
  | .ok existingConnection =>
      match action with
      | none => return some existingConnection
      | some action =>
          askExisting env connectionId existingConnection action
          return some existingConnection
  | .error _ =>
      onManager (addPendingLiveEditRequest connectionId)
      return none

/-- The part of `connectWithTicket` from the endpoint's attempt on. -/
def connectToEndpoint (connectionId : String) (connType : ConnectionType)
    (action : Option ConnectionAction) : P2PCall (Option Nat) :=
  match env.connect connectionId with
  | .error reason => do
      onManager (removeFromConnecting connectionId)
      Program.fail (.connection (.establishmentFailed connectionId reason))
  | .ok conn => do
      match ← (performHandshakeAndCreatePeer env conn true (some connType) action).attempt with
      | .ok peerConnection => return some peerConnection
      | .error error =>
          onManager (removeFromConnecting connectionId)
          Program.fail error

def enterAndConnect (connectionId : String) (connType : ConnectionType)
    (action : Option ConnectionAction) : P2PCall (Option Nat) := do
  (onManager (enterConnecting connectionId)).mapError fun connectionId =>
    .connection (.alreadyConnecting connectionId)
  connectToEndpoint env connectionId connType action

def openConnection (connectionId : String) (connType : ConnectionType)
    (action : Option ConnectionAction) : P2PCall (Option Nat) := do
  (onManager (markAsConnecting connectionId)).mapError fun connectionId =>
    .connection (.alreadyConnecting connectionId)
  connectToEndpoint env connectionId connType action

def connectWithTicket (deviceOrNodeId : String) (connType : ConnectionType)
    (action : Option ConnectionAction) : P2PCall (Option Nat) := do
  let connectionId ← Program.ofExcept (nodeOfTicket env deviceOrNodeId)
  if ← onManager (isConnectionActive connectionId) then
    useActiveConnection env connectionId action
  else openConnection env connectionId connType action

variable {env} {connectionId : String} {connType : ConnectionType}

theorem useActiveConnection_eq (action : ConnectionAction) :
    useActiveConnection env connectionId (some action) =
      .step id fun state =>
        match state.manager.connections connectionId with
        | some existingConnection => do
            askExisting env connectionId existingConnection action
            return some existingConnection
        | none => do
            onManager (addPendingLiveEditRequest connectionId)
            return none := by
  refine congrArg (Program.step id) (funext fun state => ?_)
  cases hlookup : state.manager.connections connectionId with
  | none => simp [hlookup, Program.zoom, Program.attempt, Program.bind]
  | some existingConnection => simp [hlookup, Program.zoom, Program.attempt, Program.bind]

theorem openConnection_eq (action : Option ConnectionAction) :
    openConnection env connectionId connType action =
      .step id fun state =>
        if (state.manager.connections connectionId).isSome then
          Program.fail (.connection (.alreadyConnecting
            ("Connection already established: " ++ connectionId)))
        else enterAndConnect env connectionId connType action := by
  refine congrArg (Program.step id) (funext fun state => ?_)
  cases hestablished : (state.manager.connections connectionId).isSome with
  | true =>
      simp only [hestablished, if_true]
      rfl
  | false =>
      simp only [hestablished]
      rfl

theorem enterAndConnect_eq (action : Option ConnectionAction) :
    enterAndConnect env connectionId connType action =
      .step
        (fun state =>
          if connectionId ∈ state.manager.connecting then state
          else { state with manager := { state.manager with
            connecting := insert connectionId state.manager.connecting } })
        fun state =>
          if connectionId ∈ state.manager.connecting then
            Program.fail (.connection (.alreadyConnecting
              ("Connection already in connecting state: " ++ connectionId)))
          else connectToEndpoint env connectionId connType action := by
  refine congrArg₂ Program.step (funext fun state => ?_) (funext fun state => ?_)
  · by_cases hconnecting : connectionId ∈ state.manager.connecting
    · simp [hconnecting]
    · simp [hconnecting]
  · by_cases hconnecting : connectionId ∈ state.manager.connecting
    · simp only [hconnecting, if_true]
      rfl
    · simp only [hconnecting, if_false]
      rfl

inductive ManagerCall where
  | isConnectionActive (connectionId : String)
  | connectWithTicket (env : P2PServiceEnv) (deviceOrNodeId : String)
      (connType : ConnectionType) (action : Option ConnectionAction)
  | performHandshakeAndCreatePeer (env : P2PServiceEnv) (conn : Connection)
  | removeConnection (connectionId : String)
  | cleanup (connection : Nat)

def dropConnection (connectionId : String) : P2PCall (Option Nat) := do
  let _ ← (onManager (ConnectionManager.removeConnection connectionId)).attempt
  return none

namespace ManagerCall

def body : ManagerCall → P2PCall (Option Nat)
  | isConnectionActive connectionId => do
      let _ ← onManager (ConnectionManager.isConnectionActive connectionId)
      return none
  | connectWithTicket env deviceOrNodeId connType action =>
      Network.connectWithTicket env deviceOrNodeId connType action
  | performHandshakeAndCreatePeer env conn => do
      let peer ← Network.performHandshakeAndCreatePeer env conn false none none
      return some peer
  | removeConnection connectionId => dropConnection connectionId
  | cleanup connection => do
      let connectionId ← Program.read fun state => .ok (state.node.connections connection).nodeId
      dropConnection connectionId

def Asks (connectionId : String) : ManagerCall → Prop
  | isConnectionActive asked => asked = connectionId
  | connectWithTicket env deviceOrNodeId _ _ =>
      nodeOfTicket env deviceOrNodeId = .ok connectionId
  | performHandshakeAndCreatePeer .. => False
  | removeConnection _ => False
  | cleanup _ => False

end ManagerCall

abbrev ManagerPool := Pool ManagerCall P2PState P2PServiceError (Option Nat)

abbrev afterManagerCalls (start : P2PState) (events : List (PoolEvent ManagerCall)) :
    ManagerPool :=
  run (Pool.step ManagerCall.body) { state := start } events

def SameManager (state later : P2PState) : Prop := later.manager = state.manager

theorem SameManager.refl (state : P2PState) : SameManager state state := rfl

theorem onPeer_sameManager (connection : Nat) (handler : Handler PUnit) :
    Program.Guarantees SameManager (onPeer connection handler) :=
  .mapError _ (.zoom (fun _ _ _ => rfl) (.trivial handler))

theorem askExisting_sameManager (env : P2PServiceEnv) (connectionId : String)
    (existingConnection : Nat) (action : ConnectionAction) :
    Program.Guarantees SameManager
      (askExisting env connectionId existingConnection action) := by
  have hasked : Program.Guarantees SameManager (do
      let isInitiator ← Program.read fun state : P2PState =>
        .ok (state.node.connections existingConnection).isInitiator
      if isInitiator then
        onPeer existingConnection (startUserNetworkSync env.toNetworkEnv)
      else onPeer existingConnection (sendMessage .retryRequest)) := by
    refine .bind (.read SameManager.refl _) fun isInitiator => ?_
    cases isInitiator with
    | true => exact onPeer_sameManager _ _
    | false => exact onPeer_sameManager _ _
  cases action with
  | liveEdit => exact .atomically fun _ => rfl
  | deviceSync => exact hasked
  | addDevice => exact hasked
  | userSync => exact hasked

end Osvauld.Network
