import Osvauld.Data.Tally
import Osvauld.Network.P2P.Impersonation
import Osvauld.Network.P2P.P2PService

namespace Osvauld.Network

open Osvauld.Core Data Services
open ConnectionManager

/-! What the calls for connections to one peer start there. -/

inductive FollowUp where
  | deviceManifestExchange
  | userManifestExchange
  | liveEditConnected
deriving DecidableEq, Repr

def followUp : ConnectionAction → FollowUp
  | .deviceSync => .deviceManifestExchange
  | .addDevice => .deviceManifestExchange
  | .liveEdit => .liveEditConnected
  | .userSync => .userManifestExchange

def startsExchange : FollowUp → Message → Bool
  | .deviceManifestExchange, .deviceManifestRequest _ => true
  | .userManifestExchange, .userManifestPayload (.request _) => true
  | _, _ => false

def tellsConnected (connectionId : String) : FollowUp → P2PEvent → Bool
  | .liveEditConnected, .liveEditConnected id => id = connectionId
  | _, _ => false

def startedOn (connectionId : String) (connection : PeerConnection) (started : FollowUp) : Nat :=
  connection.sent.countP (startsExchange started) +
    connection.events.countP (tellsConnected connectionId started)

def P2PState.started (connectionId : String) (state : P2PState) (started : FollowUp) : Nat :=
  ∑ number ∈ Finset.range state.opened,
      startedOn connectionId (state.node.connections number) started +
    state.emitted.countP (tellsConnected connectionId started)

inductive P2PServiceCall where
  | connectWithTicket (env : P2PServiceEnv) (deviceOrNodeId : String)
      (connType : ConnectionType) (action : ConnectionAction)
  | handshakeMessage (connection : Nat) (env : NetworkEnv) (payload : HandshakeMessage)

def isAnswer : HandshakeMessage → Bool
  | .handshakeFirstConnectRequest _ => false
  | .handshakeFirstConnectResponse _ => true
  | .handshakeExchange _ => true

namespace P2PServiceCall

def body : P2PServiceCall → P2PCall (Option Nat)
  | connectWithTicket env deviceOrNodeId connType action =>
      Network.connectWithTicket env deviceOrNodeId connType (some action)
  | handshakeMessage connection env payload => do
      onPeer connection (handleHandshakeMessage env payload)
      return none

def requests (started : FollowUp) : P2PServiceCall → Bool
  | connectWithTicket _ _ _ action => followUp action = started
  | handshakeMessage .. => false

/-- The call is one for the peer: the user is logged in, the ticket names the peer,
and the endpoint reaches it; a message is one that can complete the handshake of a
connection opened since. -/
def Reaches (connectionId : String) (start : P2PState) (call : P2PServiceCall)
    (state : P2PState) : Prop :=
  match call with
  | connectWithTicket env deviceOrNodeId _ _ =>
      env.currentUser.isSome ∧ env.currentDevice.isSome ∧
        nodeOfTicket env deviceOrNodeId = .ok connectionId ∧
          env.connect connectionId >>= Connection.remoteNodeId = .ok connectionId
  | handshakeMessage connection _ payload =>
      start.opened ≤ connection ∧ connection < state.opened ∧ isAnswer payload

instance (connectionId : String) (start : P2PState) (call : P2PServiceCall)
    (state : P2PState) : Decidable (call.Reaches connectionId start state) :=
  match call with
  | connectWithTicket .. => inferInstanceAs (Decidable (_ ∧ _ ∧ _ ∧ _))
  | handshakeMessage .. => inferInstanceAs (Decidable (_ ∧ _ ∧ _))

/-- A call that looks the connection up finds it and asks for a user
synchronization or for live editing; one that is to open a connection asks for a
user synchronization, and nobody is opening or has opened one. -/
def Timely (connectionId : String) (call : P2PServiceCall) (left : P2PCall (Option Nat))
    (state : P2PState) : Prop :=
  match call with
  | connectWithTicket env _ connType action =>
      (left = useActiveConnection env connectionId (some action) →
        (action = .userSync ∨ action = .liveEdit) ∧
          (state.manager.connections connectionId).isSome) ∧
      (left = openConnection env connectionId connType (some action) →
        action = .userSync ∧ state.manager.connections connectionId = none) ∧
      (left = enterAndConnect env connectionId connType (some action) →
        connectionId ∉ state.manager.connecting)
  | handshakeMessage .. => True

end P2PServiceCall

abbrev P2PPool := Pool P2PServiceCall P2PState P2PServiceError (Option Nat)

def afterCalls (start : P2PState) (events : List (PoolEvent P2PServiceCall)) : P2PPool :=
  run (Pool.step P2PServiceCall.body) { state := start } events

def completesHandshake (task : Running P2PServiceCall P2PState P2PServiceError (Option Nat)) :
    Bool :=
  match task.call, task.left with
  | .handshakeMessage .., .done (.ok _) => true
  | _, _ => false

/-- Every call has returned, and as many handshakes have been completed as
connections have been opened. -/
structure CameToRest (start : P2PState) (pool : P2PPool) : Prop where
  returned : ∀ task ∈ pool.running, task.left.isDone
  completed : pool.state.opened = start.opened + pool.running.countP completesHandshake

structure StartsNothing (connection connection' : PeerConnection) : Prop where
  isInitiator : connection'.isInitiator = connection.isInitiator
  started : ∀ connectionId, startedOn connectionId connection' = startedOn connectionId connection

theorem StartsNothing.refl (connection : PeerConnection) : StartsNothing connection connection :=
  ⟨rfl, fun _ => rfl⟩

abbrev Idles {α : Type} (handler : Handler α) : Prop :=
  Program.Guarantees (OnConnection StartsNothing) handler

theorem sendHandshake_idles (payload : HandshakeMessage) :
    Idles (sendMessage (.handshake payload)) := by
  refine .connection_change fun connection => ⟨rfl, fun connectionId => funext fun started => ?_⟩
  have hmessage : startsExchange started (.handshake payload) = false := by cases started <;> rfl
  simp [startedOn, hmessage]

theorem change_idles {change : PeerConnection → PeerConnection}
    (hchange : ∀ connection, (change connection).isInitiator = connection.isInitiator ∧
      (change connection).sent = connection.sent ∧
        (change connection).events = connection.events) : Idles (changeConnection change) := by
  refine .connection_change fun connection => ?_
  obtain ⟨hinitiator, hsent, hevents⟩ := hchange connection
  refine ⟨hinitiator, fun connectionId => funext fun started => ?_⟩
  rw [startedOn, startedOn, hsent, hevents]

theorem initiateHandshake_idles (env : NetworkEnv) (connectionType : ConnectionType)
    (currentUser : User) (currentDevice : Device) :
    Idles (initiateHandshake env connectionType currentUser currentDevice) := by
  refine .bind (.bind (.connection_read StartsNothing.refl _) fun deviceIdB64 =>
    .connection_read StartsNothing.refl _) fun peerUser => ?_
  refine .bind (.connection_callService StartsNothing.refl _) fun signed => .ite ?_ ?_
  · refine .bind (.connection_callService StartsNothing.refl _) fun userDevices => ?_
    refine .bind (.connection_callService StartsNothing.refl _) fun token => ?_
    exact sendHandshake_idles _
  · exact .bind (sendHandshake_idles _) fun _ => change_idles fun _ => ⟨rfl, rfl, rfl⟩

def StaysInitiator (session later : Session) : Prop :=
  session.connection.isInitiator = true → later.connection.isInitiator = true

instance : IsPreorder Session StaysInitiator where
  refl _ := id
  trans _ _ _ hfirst hsecond hinitiator := hsecond (hfirst hinitiator)

abbrev startedInSession (connectionId : String) (session : Session) : FollowUp → Nat :=
  startedOn connectionId session.connection

theorem StartsNothing.onSession (connectionId : String) (session later : Session)
    (hnothing : OnConnection StartsNothing session later) :
    StaysInitiator session later ∧
      startedInSession connectionId later = startedInSession connectionId session :=
  ⟨fun hinitiator => hnothing.isInitiator.trans hinitiator, hnothing.started connectionId⟩

def StartsUserSync {α : Type} (result : Except P2PError α) (amount : FollowUp → Nat) : Prop :=
  match result with
  | .ok _ => amount = Pi.single .userManifestExchange 1
  | .error _ => amount = 0

section Session

variable {connectionId : String} {since : Session}

theorem starts_afterIdling {α : Type} {handler : Handler α} {continuation : α → Handler PUnit}
    (hidles : Idles handler)
    (hcontinuation : ∀ value later, StaysInitiator since later →
      Program.Tallies StaysInitiator (startedInSession connectionId) StartsUserSync later 0
        (continuation value)) :
    Program.Tallies StaysInitiator (startedInSession connectionId) StartsUserSync since 0
      (handler >>= continuation) :=
  .bind_of_guarantees (StartsNothing.onSession connectionId) hidles hcontinuation fun _ => rfl

theorem starts_asInitiator {yes no : Handler PUnit}
    (hinitiator : since.connection.isInitiator = true)
    (hyes : ∀ later, StaysInitiator since later →
      Program.Tallies StaysInitiator (startedInSession connectionId) StartsUserSync later 0 yes) :
    Program.Tallies StaysInitiator (startedInSession connectionId) StartsUserSync since 0
      (readConnection PeerConnection.isInitiator >>= fun isInitiator =>
        if isInitiator = true then yes else no) := by
  refine .atomically_bind (fun _ => 0) (fun session _ => refl_of _ session)
    (fun _ _ => (add_zero _).symm) ?_ fun _ _ _ herror => by cases herror
  intro session isInitiator hsession hread
  cases hread
  rw [if_pos (hsession hinitiator), add_zero]
  exact hyes session hsession

theorem startUserNetworkSync_starts (env : NetworkEnv)
    (hinitiator : since.connection.isInitiator = true) :
    Program.Tallies StaysInitiator (startedInSession connectionId) StartsUserSync since 0
      (startUserNetworkSync env) := by
  refine starts_asInitiator hinitiator fun _ _ => ?_
  refine starts_afterIdling (.connection_read StartsNothing.refl _) fun peerUser _ _ => ?_
  refine starts_afterIdling (.getLocalUser env) fun currentUser _ _ => ?_
  refine starts_afterIdling (.connection_callServiceAs StartsNothing.refl _ _)
    fun userManifest _ _ => ?_
  refine .atomically (fun _ => Pi.single .userManifestExchange 1) ?_ ?_ ?_
  · exact fun _ _ hinitiator => hinitiator
  · refine fun session _ => funext fun started => ?_
    cases started with
    | deviceManifestExchange => simp [startedInSession, startedOn, startsExchange]
    | liveEditConnected => simp [startedInSession, startedOn, startsExchange]
    | userManifestExchange =>
        simp [startedInSession, startedOn, startsExchange, Nat.add_right_comm]
  · exact fun _ _ => zero_add _

omit since in
theorem startUserNetworkSync_succeeds {env : NetworkEnv} {user : User}
    (huser : env.currentUser = some user) : Program.Succeeds (startUserNetworkSync env) := by
  have hread {α : Type} (field : PeerConnection → α) :
      Program.Succeeds (readConnection field) := .atomically fun _ => ⟨_, rfl⟩
  have hmanifest (peerUserId currentUserId : String) :
      Program.Succeeds (getUserManifest peerUserId currentUserId) := by
    refine .bind (.atomically fun _ => ⟨_, rfl⟩) fun shareRecords => ?_
    refine .bind (.atomically fun _ => ⟨_, rfl⟩) fun folders => ?_
    refine .bind (.atomically fun _ => ⟨_, rfl⟩) fun users => ?_
    exact .bind (.atomically fun _ => ⟨_, rfl⟩) fun resources => .ok
  refine .bind (hread _) fun isInitiator => ?_
  cases isInitiator with
  | false => exact .ok
  | true =>
      refine .bind (hread _) fun peerUser => ?_
      have hlocal : getLocalUser env = .done (.ok user) := by
        rw [getLocalUser, huser]
        rfl
      refine .bind (by rw [hlocal]; exact .ok) fun currentUser => ?_
      refine .bind (.mapError _ (.zoom (hmanifest _ _))) fun userManifest => ?_
      exact .atomically fun _ => ⟨_, rfl⟩

theorem handleHandshakeMessage_starts (env : NetworkEnv) {payload : HandshakeMessage}
    (hanswer : isAnswer payload)
    (hinitiator : since.connection.isInitiator = true) :
    Program.Tallies StaysInitiator (startedInSession connectionId) StartsUserSync since 0
      (handleHandshakeMessage env payload) := by
  have hrequire (currentUser peerUser token peerUcanPub) :
      Idles (requireConnectToken env currentUser peerUser token peerUcanPub) :=
    .bind (.callCrypto _) fun _ => .ite (.fail _) (.pure _)
  have hpeer (user device) : Idles (setPeerUserAndDevice user device) :=
    change_idles fun _ => ⟨rfl, rfl, rfl⟩
  have hcomplete : Idles setHandshakeComplete := change_idles fun _ => ⟨rfl, rfl, rfl⟩
  cases payload with
  | handshakeFirstConnectRequest request => cases hanswer
  | handshakeFirstConnectResponse payload =>
      refine starts_afterIdling (.callCrypto _) fun peerUcanPub first hfirst => ?_
      refine starts_afterIdling (.getLocalUser env) fun currentUser second hsecond => ?_
      refine starts_afterIdling (hrequire _ _ _ _) fun _ third hthird => ?_
      refine starts_afterIdling (hpeer _ _) fun _ fourth hfourth => ?_
      refine starts_afterIdling hcomplete fun _ fifth hfifth => ?_
      refine starts_afterIdling (.connection_updateRepo StartsNothing.refl _)
        fun _ sixth hsixth => ?_
      exact startUserNetworkSync_starts env
        (hsixth (hfifth (hfourth (hthird (hsecond (hfirst hinitiator))))))
  | handshakeExchange payload =>
      refine starts_afterIdling (.callCrypto _) fun peerUcanPub first hfirst => ?_
      refine starts_afterIdling (.getLocalUser env) fun currentUser second hsecond => ?_
      refine starts_afterIdling (.getLocalDevice env) fun currentDevice third hthird => ?_
      refine starts_afterIdling (hrequire _ _ _ _) fun _ fourth hfourth => ?_
      refine starts_afterIdling (hpeer _ _) fun _ fifth hfifth => ?_
      refine starts_asInitiator (hfifth (hfourth (hthird (hsecond (hfirst hinitiator)))))
        fun sixth hsixth => ?_
      refine starts_afterIdling hcomplete fun _ seventh hseventh => ?_
      exact startUserNetworkSync_starts env (hseventh (hsixth (hfifth (hfourth (hthird
        (hsecond (hfirst hinitiator)))))))

end Session

/-- The connections from the given number on have been opened from here, and the
one in use is among them. -/
structure OpenedHere (connectionId : String) (first : Nat) (state : P2PState) : Prop where
  first_le : first ≤ state.opened
  initiators : ∀ number, first ≤ number → number < state.opened →
    (state.node.connections number).isInitiator = true
  inUse : ∀ number, state.manager.connections connectionId = some number →
    first ≤ number ∧ number < state.opened

structure Onward (connectionId : String) (first : Nat) (state later : P2PState) : Prop where
  opened_le : state.opened ≤ later.opened
  openedHere : OpenedHere connectionId first state → OpenedHere connectionId first later

instance (connectionId : String) (first : Nat) :
    IsPreorder P2PState (Onward connectionId first) where
  refl _ := ⟨le_rfl, id⟩
  trans _ _ _ hfirst hsecond :=
    ⟨hfirst.opened_le.trans hsecond.opened_le, hsecond.openedHere ∘ hfirst.openedHere⟩

/-- What has been started, with the synchronization that the handshake of each
connection ends in. -/
def startedOrDue (connectionId : String) (state : P2PState) : FollowUp → Nat :=
  state.started connectionId + Pi.single .userManifestExchange state.opened

structure SameConnections (connectionId : String) (state later : P2PState) : Prop where
  node : later.node = state.node
  opened : later.opened = state.opened
  emitted : later.emitted = state.emitted
  inUse : later.manager.connections connectionId = state.manager.connections connectionId

theorem SameConnections.onward {connectionId : String} {first : Nat} {state later : P2PState}
    (hsame : SameConnections connectionId state later) :
    Onward connectionId first state later ∧
      startedOrDue connectionId later = startedOrDue connectionId state := by
  obtain ⟨hnode, hopened, hemitted, hinUse⟩ := hsame
  refine ⟨⟨hopened.ge, fun hstate => ⟨?_, ?_, ?_⟩⟩, ?_⟩
  · exact hopened ▸ hstate.first_le
  · rw [hnode, hopened]
    exact hstate.initiators
  · rw [hinUse, hopened]
    exact hstate.inUse
  · have hstarted : later.started connectionId = state.started connectionId := by
      funext started
      rw [P2PState.started, P2PState.started, hnode, hopened, hemitted]
    rw [startedOrDue, startedOrDue, hstarted, hopened]

theorem started_withSession {connectionId : String} {state : P2PState} {number : Nat}
    {session : Session} {more : FollowUp → Nat} (hnumber : number < state.opened)
    (hstarted : startedInSession connectionId session =
      startedInSession connectionId (state.session number) + more) :
    startedOrDue connectionId (state.withSession number session) =
      startedOrDue connectionId state + more := by
  have hmem : number ∈ Finset.range state.opened := Finset.mem_range.mpr hnumber
  have hothers (started : FollowUp) : ∀ other ∈ Finset.range state.opened \ {number},
      startedOn connectionId
          (Function.update state.node.connections number session.connection other) started =
        startedOn connectionId (state.node.connections other) started := by
    intro other hother
    rw [Function.update_of_ne (by simpa using (Finset.mem_sdiff.mp hother).2)]
  have hhere := fun started => congrFun hstarted started
  funext started
  specialize hhere started
  simp only [startedOrDue, P2PState.started, P2PState.withSession, Node.withSession,
    Pi.add_apply, Finset.sum_eq_add_sum_sdiff_singleton_of_mem hmem,
    Finset.sum_congr rfl (hothers started), Function.update_self]
  simp only [startedInSession, P2PState.session, Node.session, Pi.add_apply] at hhere
  omega

section Calls

variable {connectionId : String} {first : Nat} {since : P2PState} {number : Nat}

theorem onPeer_adds {inSession : Except P2PError PUnit → (FollowUp → Nat) → Prop}
    {right : Except P2PServiceError PUnit → (FollowUp → Nat) → Prop}
    {handler : Handler PUnit} {added : FollowUp → Nat}
    (hsince : OpenedHere connectionId first since)
    (hfirst : first ≤ number) (hnumber : number < since.opened)
    (hhandler : Program.Tallies StaysInitiator (startedInSession connectionId) inSession
      (since.session number) added handler)
    (hright : ∀ result amount, inSession result amount → right (result.mapError .p2p) amount) :
    Program.Tallies (Onward connectionId first) (startedOrDue connectionId) right since added
      (onPeer number handler) := by
  have hthere : ∀ state, Onward connectionId first since state →
      OpenedHere connectionId first state ∧ number < state.opened := fun state hstate =>
    ⟨hstate.openedHere hsince, hnumber.trans_le hstate.opened_le⟩
  refine .mapError (.zoom ?_ ?_ ?_ ?_ (hhandler.mono hright))
  · intro session state
    simp [P2PState.session, P2PState.withSession, Node.session, Node.withSession]
  · intro state later hstate hlater _
    have hopened := hthere later (trans_of (Onward connectionId first) hstate hlater)
    exact hopened.1.initiators number hfirst hopened.2
  · intro state session hstate hsession
    refine ⟨le_rfl, fun hopened => ⟨hopened.first_le, fun other hother hlt => ?_,
      hopened.inUse⟩⟩
    by_cases heq : other = number
    · subst heq
      simpa [P2PState.withSession, Node.withSession] using
        hsession (hopened.initiators other hother hlt)
    · simpa [P2PState.withSession, Node.withSession, heq] using
        hopened.initiators other hother hlt
  · exact fun state session more hstate hmore =>
      started_withSession (hthere state hstate).2 hmore

theorem onManager_same {ε α : Type} {program : Program ConnectionManager ε α}
    (hprogram : Program.Guarantees (fun manager later =>
      later.connections connectionId = manager.connections connectionId) program) :
    Program.Guarantees (SameConnections connectionId) (onManager program) :=
  .zoom (fun _ _ hsame => ⟨rfl, rfl, rfl, hsame⟩) hprogram

theorem askExisting_adds {env : P2PServiceEnv} {action : ConnectionAction} {user : User}
    (huser : env.currentUser = some user) (haction : action = .userSync ∨ action = .liveEdit)
    (hsince : OpenedHere connectionId first since) (hfirst : first ≤ number)
    (hnumber : number < since.opened) :
    Program.Tallies (Onward connectionId first) (startedOrDue connectionId)
      (fun _ amount => amount = Pi.single (followUp action) 1) since 0
      (askExisting env connectionId number action) := by
  rcases haction with rfl | rfl
  · refine .atomically_bind (fun _ => 0) (fun state _ => refl_of _ state)
      (fun _ _ => (add_zero _).symm) ?_ fun _ _ _ herror => by cases herror
    intro state isInitiator hstate hread
    cases hread
    have hhere := hstate.openedHere hsince
    have hlater := hnumber.trans_le hstate.opened_le
    rw [if_pos (hhere.initiators number hfirst hlater), add_zero]
    refine onPeer_adds hhere hfirst hlater (.of_succeeds (startUserNetworkSync_succeeds huser)
      (startUserNetworkSync_starts _ (hhere.initiators number hfirst hlater))) ?_
    rintro _ amount ⟨value, rfl, hamount⟩
    exact hamount
  · refine .atomically (fun _ => Pi.single .liveEditConnected 1) ?_ ?_ fun _ _ => zero_add _
    · exact fun _ _ => ⟨le_rfl, fun hstate => ⟨hstate.first_le, hstate.initiators, hstate.inUse⟩⟩
    · intro state _
      funext started
      cases started with
      | liveEditConnected =>
          simp [startedOrDue, P2PState.started, tellsConnected]
          omega
      | deviceManifestExchange => simp [startedOrDue, P2PState.started, tellsConnected]
      | userManifestExchange => simp [startedOrDue, P2PState.started, tellsConnected]

theorem putInUse_onward {state : P2PState} (hfirst : first ≤ number)
    (hnumber : number < state.opened) (manager : ConnectionManager)
    (hmanager : manager.connections connectionId = some number) :
    Onward connectionId first state { state with manager } := by
  refine ⟨le_rfl, fun hstate => ⟨hstate.first_le, hstate.initiators, fun other hother => ?_⟩⟩
  obtain rfl := Option.some.inj (hmanager.symm.trans hother)
  exact ⟨hfirst, hnumber⟩

theorem insertConnection_adds (hfirst : first ≤ number) (hnumber : number < since.opened)
    (amount : FollowUp → Nat) :
    Program.Tallies (Onward connectionId first) (startedOrDue connectionId)
      (fun _ added => added = amount) since amount
      (onManager (insertConnection connectionId number)) := by
  have hcount (state : P2PState) : startedOrDue connectionId state =
      startedOrDue connectionId state + 0 := (add_zero _).symm
  have hsame (state : P2PState) := @SameConnections.onward connectionId first state
    { state with manager := { state.manager with
        connecting := state.manager.connecting.erase connectionId } } ⟨rfl, rfl, rfl, rfl⟩
  refine .step (fun _ => 0) (fun state _ _ => (hsame state).1) (fun state _ _ => hcount state)
    fun state hstate _ => ?_
  refine .step (fun _ => 0) (fun later hlater _ => ?_) (fun later _ _ => hcount later)
    fun later _ _ => .done (by simp)
  exact putInUse_onward hfirst (hnumber.trans_le
    (hstate.opened_le.trans hlater.opened_le)) _ (Function.update_self _ _ _)

theorem newPeerConnection_onward {connection : PeerConnection}
    (hinitiator : connection.isInitiator = true)
    (hnothing : ∀ started, startedOn connectionId connection started = 0)
    (isLiveEdit : Bool) (state : P2PState) :
    let later := ((newPeerConnection connection isLiveEdit).run state).2
    Onward connectionId first state later ∧
      startedOrDue connectionId later =
        startedOrDue connectionId state + Pi.single .userManifestExchange 1 := by
  refine ⟨⟨Nat.le_succ _, fun hstate => ⟨hstate.first_le.trans (Nat.le_succ _), ?_, ?_⟩⟩, ?_⟩
  · intro number hfirst hnumber
    by_cases heq : number = state.opened
    · subst heq
      simpa [newPeerConnection] using hinitiator
    · have hlt : number < state.opened := by
        simp only [newPeerConnection, Program.run_atomically] at hnumber
        omega
      simpa [newPeerConnection, heq] using hstate.initiators number hfirst hlt
  · intro number hnumber
    obtain ⟨hfirst, hlt⟩ := hstate.inUse number hnumber
    exact ⟨hfirst, hlt.trans (Nat.lt_succ_self _)⟩
  · have hothers (started : FollowUp) : ∀ other ∈ Finset.range state.opened,
        startedOn connectionId
            (Function.update state.node.connections state.opened connection other) started =
          startedOn connectionId (state.node.connections other) started := by
      intro other hother
      rw [Function.update_of_ne (Finset.mem_range.mp hother).ne]
    funext started
    simp only [newPeerConnection, Program.run_atomically, startedOrDue, P2PState.started,
      Pi.add_apply, Finset.sum_range_succ, Finset.sum_congr rfl (hothers started),
      Function.update_self, hnothing, Pi.single_apply]
    split <;> omega

theorem handshake_adds (env : NetworkEnv) (connType : ConnectionType) (user : User)
    (device : Device) (report : String → ConnectionError) (hfirst : first ≤ number)
    (hnumber : number < since.opened) (hsince : OpenedHere connectionId first since) :
    Program.Tallies (Onward connectionId first) (startedOrDue connectionId)
      (fun _ amount => amount = Pi.single .userManifestExchange 1) since
      (Pi.single .userManifestExchange 1) (do
        (onManager (insertConnection connectionId number)).mapError fun connectionId =>
          P2PServiceError.connection (report connectionId)
        onPeer number (initiateHandshake env connType user device)
        return number) := by
  have hinsert : Program.Tallies (Onward connectionId first) (startedOrDue connectionId)
      (fun _ amount => amount = Pi.single .userManifestExchange 1) since
      (Pi.single .userManifestExchange 1)
      ((onManager (insertConnection connectionId number)).mapError fun connectionId =>
        P2PServiceError.connection (report connectionId)) :=
    .mapError (insertConnection_adds hfirst hnumber _)
  refine .bind hinsert ?_ fun _ _ hamount => hamount
  rintro _ _ later hlater rfl
  have hinitiate : Program.Tallies (Onward connectionId first) (startedOrDue connectionId)
      (fun _ amount => amount = Pi.single .userManifestExchange 1) later
      (Pi.single .userManifestExchange 1)
      (onPeer number (initiateHandshake env connType user device)) :=
    onPeer_adds (hlater.openedHere hsince) hfirst (hnumber.trans_le hlater.opened_le)
      (.of_guarantees (StartsNothing.onSession connectionId) (initiateHandshake_idles _ _ _ _))
      fun _ _ hamount => hamount
  refine .bind hinitiate ?_ fun _ _ hamount => hamount
  rintro _ _ _ _ rfl
  exact .pure rfl

theorem performHandshakeAndCreatePeer_adds {env : P2PServiceEnv} {conn : Connection}
    {user : User} {device : Device} (huser : env.currentUser = some user)
    (hdevice : env.currentDevice = some device)
    (hconn : conn.remoteNodeId = .ok connectionId) (connType : ConnectionType)
    (action : ConnectionAction) (hsince : OpenedHere connectionId first since) :
    Program.Tallies (Onward connectionId first) (startedOrDue connectionId)
      (fun _ amount => amount = Pi.single .userManifestExchange 1) since 0
      (performHandshakeAndCreatePeer env conn true (some connType) (some action)) := by
  have hstart : performHandshakeAndCreatePeer env conn true (some connType) (some action) = do
      let isLiveEdit ← onManager (getAndClearPendingLiveEditRequests connectionId)
      let peerConnection ← newPeerConnection (.new connectionId conn.remoteDeviceId true
        (some action) (some connType) user device) isLiveEdit
      (onManager (insertConnection connectionId peerConnection)).mapError fun connectionId =>
        P2PServiceError.connection (.alreadyExists connectionId)
      onPeer peerConnection (initiateHandshake env.toNetworkEnv connType user device)
      return peerConnection := by
    simp only [performHandshakeAndCreatePeer, getCurrentDevice, getCurrentUser, huser, hdevice,
      hconn]
    rfl
  rw [hstart]
  refine .bind_of_succeeds (fun _ _ hsame => hsame.onward)
    (onManager_same (.atomically fun _ => rfl)) (.zoom (.atomically fun _ => ⟨_, rfl⟩))
    fun isLiveEdit before hbefore => ?_
  have hnothing (started : FollowUp) : startedOn connectionId (.new connectionId
      conn.remoteDeviceId true (some action) (some connType) user device) started = 0 := rfl
  refine .atomically_bind (fun _ => Pi.single .userManifestExchange 1)
    (fun state _ => (newPeerConnection_onward rfl hnothing isLiveEdit state).1)
    (fun state _ => (@newPeerConnection_onward _ first _ rfl hnothing isLiveEdit state).2) ?_
    fun _ _ _ herror => by cases herror
  intro state number hstate hnumber
  cases hnumber
  have hbefore := hstate.openedHere (hbefore.openedHere hsince)
  rw [zero_add]
  exact handshake_adds _ _ _ _ (fun _ => .alreadyExists _) hbefore.first_le (Nat.lt_succ_self _)
    ((newPeerConnection_onward rfl hnothing isLiveEdit state).1.openedHere hbefore)

theorem connectToEndpoint_adds {env : P2PServiceEnv} {conn : Connection} {user : User}
    {device : Device} (huser : env.currentUser = some user)
    (hdevice : env.currentDevice = some device)
    (hconnect : env.connect connectionId = .ok conn)
    (hconn : conn.remoteNodeId = .ok connectionId) (connType : ConnectionType)
    (action : ConnectionAction) (hsince : OpenedHere connectionId first since) :
    Program.Tallies (Onward connectionId first) (startedOrDue connectionId)
      (fun _ amount => amount = Pi.single .userManifestExchange 1) since 0
      (connectToEndpoint env connectionId connType (some action)) := by
  have hperform : Program.Tallies (Onward connectionId first) (startedOrDue connectionId)
      (fun (_ : Except P2PServiceError (Except P2PServiceError Nat)) amount =>
        amount = Pi.single .userManifestExchange 1) since 0
      (performHandshakeAndCreatePeer env conn true (some connType) (some action)).attempt :=
    .attempt (performHandshakeAndCreatePeer_adds huser hdevice hconn connType action hsince)
  rw [connectToEndpoint, hconnect]
  refine .bind hperform ?_ fun _ _ hamount => hamount
  rintro (error | peerConnection) _ later hlater rfl
  · refine .bind_of_guarantees (fun _ _ hsame => hsame.onward) (onManager_same (.atomically fun _ => rfl))
      (fun _ _ _ => ?_) fun _ => rfl
    exact .fail rfl
  · exact .pure rfl

theorem connectWithTicket_adds {start : P2PState} {env : P2PServiceEnv}
    {deviceOrNodeId : String} {connType : ConnectionType} {action : ConnectionAction}
    (hreaches : (P2PServiceCall.connectWithTicket env deviceOrNodeId connType action).Reaches
      connectionId start since) (hsince : OpenedHere connectionId first since) :
    Program.Adds (P2PServiceCall.Timely connectionId
        (.connectWithTicket env deviceOrNodeId connType action))
      (Onward connectionId first) (startedOrDue connectionId)
      (fun _ amount => amount = Pi.single (followUp action) 1) since 0
      (connectWithTicket env deviceOrNodeId connType (some action)) := by
  obtain ⟨huser, hdevice, hticket, hreached⟩ := hreaches
  obtain ⟨conn, hconnect, hconn⟩ := bind_eq_ok.mp hreached
  obtain ⟨user, huser⟩ := Option.isSome_iff_exists.mp huser
  obtain ⟨device, hdevice⟩ := Option.isSome_iff_exists.mp hdevice
  rw [connectWithTicket, hticket]
  change Program.Adds _ _ _ _ _ _ (onManager (isConnectionActive connectionId) >>= _)
  refine .bind_of_succeeds (fun _ _ hsame => hsame.onward)
    (onManager_same (.atomically fun _ => rfl)) (.zoom (.atomically fun _ => ⟨_, rfl⟩))
    fun active before hbefore => .ite ?_ ?_
  · rw [useActiveConnection_eq]
    refine .step (fun _ => 0) (fun state _ _ => refl_of _ state)
      (fun state _ _ => (add_zero _).symm) fun state hstate htimely => ?_
    obtain ⟨haction, hinUse⟩ := htimely.1 (useActiveConnection_eq action).symm
    obtain ⟨number, hnumber⟩ := Option.isSome_iff_exists.mp hinUse
    have hopened := hstate.openedHere (hbefore.openedHere hsince)
    obtain ⟨hfirst, hlt⟩ := hopened.inUse number hnumber
    rw [hnumber, add_zero]
    refine .bind (askExisting_adds huser haction hopened hfirst hlt) ?_
      fun _ _ hamount => hamount
    rintro _ _ _ _ rfl
    exact .pure rfl
  · rw [openConnection_eq]
    refine .step (fun _ => 0) (fun state _ _ => refl_of _ state)
      (fun state _ _ => (add_zero _).symm) fun state hstate htimely => ?_
    obtain ⟨rfl, hnone⟩ := htimely.2.1 (openConnection_eq (some action)).symm
    rw [hnone, add_zero, if_neg (by simp), enterAndConnect_eq]
    have hentered (later : P2PState) : SameConnections connectionId later
        (if connectionId ∈ later.manager.connecting then later
        else { later with manager := { later.manager with
          connecting := insert connectionId later.manager.connecting } }) := by
      split
      · exact ⟨rfl, rfl, rfl, rfl⟩
      · exact ⟨rfl, rfl, rfl, rfl⟩
    refine .step (fun _ => 0) (fun later _ _ => (hentered later).onward.1) (fun later _ _ => ?_)
      fun later hlater htimely => ?_
    · rw [add_zero]
      exact (@SameConnections.onward _ first _ _ (hentered later)).2
    · have hfree := htimely.2.2 (enterAndConnect_eq _).symm
      have hopened := (hentered later).onward.1.openedHere
        (hlater.openedHere (hstate.openedHere (hbefore.openedHere hsince)))
      rw [if_neg hfree] at hopened
      rw [if_neg hfree, if_neg hfree, add_zero]
      exact .of_tallies (connectToEndpoint_adds huser hdevice hconnect hconn connType .userSync
        hopened)

theorem handshakeMessage_adds {start : P2PState} {env : NetworkEnv} {payload : HandshakeMessage}
    (hreaches : (P2PServiceCall.handshakeMessage number env payload).Reaches connectionId start
      since) (hsince : OpenedHere connectionId start.opened since) :
    Program.Tallies (Onward connectionId start.opened) (startedOrDue connectionId)
      (fun result amount => amount = if result.isOk then Pi.single .userManifestExchange 1 else 0)
      since 0 (P2PServiceCall.body (.handshakeMessage number env payload)) := by
  obtain ⟨hfirst, hnumber, hanswer⟩ := hreaches
  have hhandler : Program.Tallies (Onward connectionId start.opened) (startedOrDue connectionId)
      (fun result amount => amount = if result.isOk then Pi.single .userManifestExchange 1 else 0)
      since 0 (onPeer number (handleHandshakeMessage env payload)) := by
    refine onPeer_adds hsince hfirst hnumber (handleHandshakeMessage_starts env hanswer
      (hsince.initiators number hfirst hnumber)) ?_
    rintro (error | value) amount hamount
    · exact hamount
    · exact hamount
  refine .bind hhandler ?_ ?_
  · rintro _ _ _ _ rfl
    exact .pure rfl
  · rintro _ _ rfl
    rfl

end Calls

def P2PServiceCall.worth (call : P2PServiceCall)
    (result : Except P2PServiceError (Option Nat)) : FollowUp → Nat :=
  match call with
  | connectWithTicket _ _ _ action => Pi.single (followUp action) 1
  | handshakeMessage .. => if result.isOk then Pi.single .userManifestExchange 1 else 0

def taskWorth (task : Running P2PServiceCall P2PState P2PServiceError (Option Nat)) :
    FollowUp → Nat :=
  match task.left with
  | .done result => task.call.worth result
  | .step .. => 0

theorem taskWorth_eq {task : Running P2PServiceCall P2PState P2PServiceError (Option Nat)}
    {result : Except P2PServiceError (Option Nat)} (hresult : task.left = .done result)
    (started : FollowUp) :
    taskWorth task started = (if task.call.requests started then 1 else 0) +
      if started = .userManifestExchange then if completesHandshake task then 1 else 0
      else 0 := by
  rw [taskWorth, completesHandshake, hresult]
  cases hcall : task.call with
  | connectWithTicket env deviceOrNodeId connType action =>
      simp [P2PServiceCall.worth, P2PServiceCall.requests, Pi.single_apply, eq_comm]
  | handshakeMessage connection env payload =>
      cases result with
      | ok value =>
          simp [P2PServiceCall.worth, P2PServiceCall.requests, Pi.single_apply, Except.isOk,
            Except.toBool]
      | error error =>
          simp [P2PServiceCall.worth, P2PServiceCall.requests, Except.isOk, Except.toBool]

theorem sum_taskWorth
    {running : List (Running P2PServiceCall P2PState P2PServiceError (Option Nat))}
    (hreturned : ∀ task ∈ running, ∃ result, task.left = .done result) (started : FollowUp) :
    (running.map taskWorth).sum started =
      running.countP (fun task => task.call.requests started) +
        if started = .userManifestExchange then running.countP completesHandshake else 0 := by
  induction running with
  | nil => simp
  | cons task rest ih =>
      obtain ⟨result, hresult⟩ := hreturned task List.mem_cons_self
      have hrest := ih fun other hother => hreturned other (List.mem_cons_of_mem _ hother)
      rw [List.map_cons, List.sum_cons, Pi.add_apply, hrest, taskWorth_eq hresult,
        List.countP_cons, List.countP_cons]
      by_cases hsync : started = .userManifestExchange
      · rw [if_pos hsync, if_pos hsync, if_pos hsync]
        omega
      · rw [if_neg hsync, if_neg hsync, if_neg hsync]
        omega

theorem afterCalls_tallied {connectionId : String} {start : P2PState}
    {events : List (PoolEvent P2PServiceCall)}
    (hfresh : start.manager.connections connectionId = none)
    (hreaches : ∀ earlier call, earlier ++ [.start call] <+: events →
      call.Reaches connectionId start (afterCalls start earlier).state)
    (htimely : ∀ earlier index, earlier ++ [.advance index] <+: events →
      Pool.StepMeets (P2PServiceCall.Timely connectionId) index (afterCalls start earlier))
    {earlier : List (PoolEvent P2PServiceCall)} (hearlier : earlier <+: events) :
    ∃ amounts, Pool.Tallied (P2PServiceCall.Timely connectionId)
      (Onward connectionId start.opened) (startedOrDue connectionId)
      (fun call result amount => amount = call.worth result) start amounts
      (afterCalls start earlier) := by
  have hstart : OpenedHere connectionId start.opened start := by
    refine ⟨le_rfl, fun number hfirst hnumber => absurd hnumber hfirst.not_gt,
      fun number hnumber => ?_⟩
    rw [hfresh] at hnumber
    cases hnumber
  refine Pool.tallied_run (fun earlier call hcall hreach => ?_) htimely earlier hearlier
  have hsince := hreach.openedHere hstart
  cases call with
  | connectWithTicket env deviceOrNodeId connType action =>
      exact connectWithTicket_adds (hreaches earlier _ hcall) hsince
  | handshakeMessage connection env payload =>
      exact .of_tallies (handshakeMessage_adds (hreaches earlier _ hcall) hsince)

/-- Every action is started as often as it has been asked for, when only
synchronizations of the user and live editing are asked for, connections are opened
for the former, and every other call finds the connection that it needs. -/
theorem requested_actions_started {connectionId : String} {start : P2PState}
    {events : List (PoolEvent P2PServiceCall)}
    (hfresh : start.manager.connections connectionId = none)
    (hreaches : ∀ earlier call, earlier ++ [.start call] <+: events →
      call.Reaches connectionId start (afterCalls start earlier).state)
    (htimely : ∀ earlier index, earlier ++ [.advance index] <+: events →
      Pool.StepMeets (P2PServiceCall.Timely connectionId) index (afterCalls start earlier)) :
    ∀ earlier, earlier <+: events → CameToRest start (afterCalls start earlier) →
      ∀ started, (afterCalls start earlier).state.started connectionId started =
        start.started connectionId started +
          (afterCalls start earlier).running.countP fun task => task.call.requests started := by
  rintro earlier hearlier ⟨hreturned, hcompleted⟩ started
  obtain ⟨amounts, hpool⟩ := afterCalls_tallied hfresh hreaches htimely hearlier
  have hreturned := fun task htask => Program.isDone_iff.mp (hreturned task htask)
  have hfinished := @Pool.Tallied.finished _ _ _ _ _ _ _ _ _ _ _ _ _ taskWorth hpool
    fun task htask => by
      obtain ⟨result, hresult⟩ := hreturned task htask
      refine ⟨result, hresult, fun amount hamount => ?_⟩
      rw [taskWorth, hresult]
      exact hamount
  have hhere := congrFun hfinished started
  simp only [startedOrDue, Pi.add_apply, sum_taskWorth hreturned, Pi.single_apply,
    hcompleted] at hhere
  split at hhere <;> omega

namespace ReachingX

def start : P2PState :=
  { node := { repo := (contactSession "R" 'r' true).repo
              connections := fun _ => (contactSession "R" 'r' true).connection }
    opened := 0, manager := {}, isLiveEdit := fun _ => false, emitted := [] }

def env : P2PServiceEnv :=
  { contactEnv "R" 'r' with
    nodeIdFromStr := some
    nodeIdFromBytes := fun _ => .error "not an id"
    connect := fun nodeId => .ok { remoteNodeId := .ok nodeId, remoteDeviceId := "dev-X" } }

def asks (action : ConnectionAction) : P2PServiceCall :=
  .connectWithTicket env "node-X" .user action

def opening (action : ConnectionAction) : List (PoolEvent P2PServiceCall) :=
  .start (asks action) :: List.replicate 12 (.advance 0) ++
    .start (.handshakeMessage 0 (contactEnv "R" 'r') (exchangeAs "X" 'x' "to X")) ::
      List.replicate 10 (.advance 1)

def editingLater : List (PoolEvent P2PServiceCall) :=
  opening .userSync ++ .start (asks .liveEdit) :: List.replicate 3 (.advance 2)

def connecting : P2PState := { start with manager := { connecting := {"node-X"} } }

/-- The parts of a call that its condition is about are told apart by how they end
when they are run alone. -/
def timely (task : Running P2PServiceCall P2PState P2PServiceError (Option Nat))
    (state : P2PState) : Bool :=
  match task.call with
  | .connectWithTicket _ _ _ action =>
      ((task.left.run start).1 ≠ .ok none ∨
        (action = .userSync ∨ action = .liveEdit) ∧
          (state.manager.connections "node-X").isSome) ∧
      ((task.left.run connecting).1 ≠ .error (.connection (.alreadyConnecting
          "Connection already in connecting state: node-X")) ∨
        action = .userSync ∧ state.manager.connections "node-X" = none ∧
          "node-X" ∉ state.manager.connecting)
  | .handshakeMessage .. => true

theorem timely_sound (task : Running P2PServiceCall P2PState P2PServiceError (Option Nat))
    (state : P2PState) (htest : timely task state = true) :
    task.call.Timely "node-X" task.left state := by
  cases hcall : task.call with
  | handshakeMessage connection env payload => trivial
  | connectWithTicket env deviceOrNodeId connType action =>
      simp only [timely, hcall, Bool.decide_and, Bool.decide_or, Bool.and_eq_true,
        Bool.or_eq_true, decide_eq_true_eq] at htest
      obtain ⟨hused, hopened⟩ := htest
      refine ⟨fun hleft => ?_, fun hleft => ?_, fun hleft => ?_⟩
      · exact hused.resolve_left fun hother => hother (by rw [hleft]; rfl)
      · have hfree := hopened.resolve_left fun hother => hother (by rw [hleft]; rfl)
        exact ⟨hfree.1, hfree.2.1⟩
      · have hfree := hopened.resolve_left fun hother => hother (by rw [hleft]; rfl)
        exact hfree.2.2

theorem editingLater_run :
    Pool.everyEvent P2PServiceCall.body
        (fun call state => call.Reaches "node-X" start state) timely { state := start }
        editingLater = true ∧
      (∀ task ∈ (afterCalls start editingLater).running, task.left.isDone) ∧
      (afterCalls start editingLater).state.opened = start.opened +
        (afterCalls start editingLater).running.countP completesHandshake := by
  decide +kernel

end ReachingX

open ReachingX in
theorem requested_actions_started_reachingX :
    (afterCalls start editingLater).state.started "node-X" .liveEditConnected =
      start.started "node-X" .liveEditConnected +
        (afterCalls start editingLater).running.countP fun task =>
          task.call.requests .liveEditConnected := by
  obtain ⟨hevery, hreturned, hcompleted⟩ := editingLater_run
  refine requested_actions_started rfl ?_ ?_ _ List.prefix_rfl ?_ _
  · intro earlier call hearlier
    have hreaches := Pool.starts_of_everyEvent hevery hearlier
    exact of_decide_eq_true hreaches
  · exact fun earlier index hearlier =>
      Pool.stepMeets_of_everyEvent hevery timely_sound hearlier
  · exact ⟨hreturned, hcompleted⟩

open ReachingX in
/-- Live editing is asked for, and the users' manifests are exchanged instead. -/
theorem live_edit_becomes_sync :
    (∀ earlier call, earlier ++ [.start call] <+: opening .liveEdit →
        call.Reaches "node-X" start (afterCalls start earlier).state) ∧
      CameToRest start (afterCalls start (opening .liveEdit)) ∧
        (afterCalls start (opening .liveEdit)).running.countP
            (fun task => task.call.requests .liveEditConnected) = 1 ∧
          (afterCalls start (opening .liveEdit)).state.started "node-X" .liveEditConnected = 0 ∧
            (afterCalls start (opening .liveEdit)).state.started "node-X"
              .userManifestExchange = 1 := by
  obtain ⟨hevery, hreturned, hcompleted, hrequested, hstarted, hexchanged⟩ :
      Pool.everyEvent P2PServiceCall.body
          (fun call state => call.Reaches "node-X" start state) (fun _ _ => true)
          { state := start } (opening .liveEdit) = true ∧
        (∀ task ∈ (afterCalls start (opening .liveEdit)).running, task.left.isDone) ∧
        (afterCalls start (opening .liveEdit)).state.opened = start.opened +
          (afterCalls start (opening .liveEdit)).running.countP completesHandshake ∧
        (afterCalls start (opening .liveEdit)).running.countP
            (fun task => task.call.requests .liveEditConnected) = 1 ∧
        (afterCalls start (opening .liveEdit)).state.started "node-X" .liveEditConnected = 0 ∧
        (afterCalls start (opening .liveEdit)).state.started "node-X"
          .userManifestExchange = 1 := by
    decide +kernel
  refine ⟨fun earlier call hearlier => ?_, ⟨hreturned, hcompleted⟩, hrequested, hstarted,
    hexchanged⟩
  have hreaches := Pool.starts_of_everyEvent hevery hearlier
  exact of_decide_eq_true hreaches

end Osvauld.Network
