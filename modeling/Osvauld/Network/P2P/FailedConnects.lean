import Mathlib.Data.Finset.Basic
import Osvauld.Network.P2P.P2PService

namespace Osvauld.Network

open Osvauld.Core Data Persistance
open ConnectionManager

/-! Attempts to connect that fail, and what is left of them in the manager. -/

structure SameRegistry (state later : P2PState) : Prop where
  connecting : later.manager.connecting = state.manager.connecting
  connections : later.manager.connections = state.manager.connections

namespace SameRegistry

theorem refl (state : P2PState) : SameRegistry state state := ⟨rfl, rfl⟩

theorem trans (first second third : P2PState) (hfirst : SameRegistry first second)
    (hsecond : SameRegistry second third) : SameRegistry first third :=
  ⟨hsecond.connecting.trans hfirst.connecting,
    hsecond.connections.trans hfirst.connections⟩

theorem of_sameManager {state later : P2PState} (hsame : SameManager state later) :
    SameRegistry state later :=
  ⟨by rw [hsame], by rw [hsame]⟩

end SameRegistry

def NextIsNew (state : P2PState) : Prop :=
  ∀ connectionId, state.manager.connections connectionId ≠ some state.opened

/-- The attempt gets as far as putting its connection in use: nobody has the id, the
node is reached and says who it is, and a user and a device are logged in. -/
inductive Registers (env : P2PServiceEnv) (deviceOrNodeId : String) (state : P2PState) : Prop
  | registers : nodeOfTicket env deviceOrNodeId = .ok connectionId →
      connectionId ∉ state.manager.connecting →
      state.manager.connections connectionId = none →
      env.connect connectionId = .ok conn →
      env.currentDevice = some device → env.currentUser = some user →
      conn.remoteNodeId = .ok peerNodeId →
      Registers env deviceOrNodeId state

section Parts

variable {env : P2PServiceEnv} {connectionId : String} {connType : ConnectionType}
variable {action : Option ConnectionAction} {conn : Connection} {state : P2PState}

theorem useActiveConnection_same :
    SameRegistry state ((useActiveConnection env connectionId action).run state).2 := by
  have hkeeps : Program.Guarantees SameRegistry
      (useActiveConnection env connectionId action) := by
    have hlookup : Program.Guarantees SameRegistry
        ((onManager (getPeerConnection connectionId)).attempt :
          P2PCall (Except String Nat)) := .step .refl fun _ => .done
    have hpending : Program.Guarantees SameRegistry
        (onManager (addPendingLiveEditRequest connectionId) : P2PCall PUnit) :=
      .step (fun _ => ⟨rfl, rfl⟩) fun _ => .done
    refine hlookup.bind fun found => ?_
    cases found with
    | error error => exact hpending.bind fun _ => .pure _
    | ok existingConnection =>
        cases action with
        | none => exact .pure _
        | some action =>
            exact .bind ((askExisting_sameManager env connectionId existingConnection
              action).mono fun _ _ => .of_sameManager) fun _ => .pure _
  exact hkeeps.run .refl .trans state

theorem performHandshakeAndCreatePeer_refused
    (hrefused : ∀ device user peerNodeId, env.currentDevice = some device →
      env.currentUser = some user → conn.remoteNodeId ≠ .ok peerNodeId) :
    ∃ error, (performHandshakeAndCreatePeer env conn true (some connType) action).run state =
      (.error error, state) := by
  unfold performHandshakeAndCreatePeer getCurrentDevice getCurrentUser
  cases hdevice : env.currentDevice with
  | none => exact ⟨_, rfl⟩
  | some device =>
      cases huser : env.currentUser with
      | none => exact ⟨_, rfl⟩
      | some user =>
          cases hnode : conn.remoteNodeId with
          | error message => exact ⟨_, rfl⟩
          | ok peerNodeId => exact absurd hnode (hrefused device user peerNodeId hdevice huser)

theorem performHandshakeAndCreatePeer_registers {device : Device} {user : User}
    {peerNodeId : String} (hdevice : env.currentDevice = some device)
    (huser : env.currentUser = some user) (hnode : conn.remoteNodeId = .ok peerNodeId) :
    ((performHandshakeAndCreatePeer env conn true (some connType) action).run
        state).2.manager.connections =
      Function.update state.manager.connections peerNodeId (some state.opened) := by
  have hinserted (rest : P2PCall Nat) (between : P2PState)
      (hrest : Program.Guarantees SameManager rest)
      (hbetween : between.manager.connections =
        Function.update state.manager.connections peerNodeId (some state.opened)) :
      (rest.run between).2.manager.connections =
        Function.update state.manager.connections peerNodeId (some state.opened) := by
    have hsame : SameManager between (rest.run between).2 :=
      hrest.run .refl (fun _ _ _ hfirst hsecond => hsecond.trans hfirst) between
    rw [hsame, hbetween]
  unfold performHandshakeAndCreatePeer getCurrentDevice getCurrentUser
  rw [hdevice, huser, hnode]
  cases action with
  | none => rfl
  | some action =>
      exact hinserted (do
        onPeer state.opened (initiateHandshake env.toNetworkEnv connType user device)
        return state.opened) _ (.bind (onPeer_sameManager _ _) fun _ => .pure _) rfl

def marked (connectionId : String) (state : P2PState) : P2PState :=
  { state with manager := { state.manager with
    connecting := insert connectionId state.manager.connecting } }

def unmarked (connectionId : String) (state : P2PState) : P2PState :=
  { state with manager := { state.manager with
    connecting := state.manager.connecting.erase connectionId } }

theorem connectToEndpoint_unreached {reason : String}
    (hconnect : env.connect connectionId = .error reason) :
    ((connectToEndpoint env connectionId connType action).run state).2 =
      unmarked connectionId state := by
  unfold connectToEndpoint
  rw [hconnect]
  rfl

theorem connectToEndpoint_refused (hconnect : env.connect connectionId = .ok conn)
    (hrefused : ∀ device user peerNodeId, env.currentDevice = some device →
      env.currentUser = some user → conn.remoteNodeId ≠ .ok peerNodeId) :
    ((connectToEndpoint env connectionId connType action).run state).2 =
      unmarked connectionId state := by
  obtain ⟨error, hrun⟩ := @performHandshakeAndCreatePeer_refused env connType action conn
    state hrefused
  unfold connectToEndpoint
  rw [hconnect]
  dsimp only
  rw [Program.run_bind, Program.run_attempt, hrun]
  rfl

theorem connectToEndpoint_registers {device : Device} {user : User} {peerNodeId : String}
    (hconnect : env.connect connectionId = .ok conn)
    (hdevice : env.currentDevice = some device) (huser : env.currentUser = some user)
    (hnode : conn.remoteNodeId = .ok peerNodeId) :
    ((connectToEndpoint env connectionId connType action).run state).2.manager.connections =
      Function.update state.manager.connections peerNodeId (some state.opened) := by
  have hregisters := @performHandshakeAndCreatePeer_registers env connType action conn state
    device user peerNodeId hdevice huser hnode
  unfold connectToEndpoint
  rw [hconnect]
  dsimp only
  rw [Program.run_bind, Program.run_attempt, Program.andThen_ok]
  cases ((performHandshakeAndCreatePeer env conn true (some connType) action).run state).1 with
  | ok peerConnection => exact hregisters
  | error error => exact hregisters

theorem same_unmarked (hnew : connectionId ∉ state.manager.connecting) :
    SameRegistry state (unmarked connectionId (marked connectionId state)) :=
  ⟨Finset.erase_insert hnew, rfl⟩

theorem openConnection_marked (hnew : connectionId ∉ state.manager.connecting)
    (hnone : state.manager.connections connectionId = none) :
    (openConnection env connectionId connType action).run state =
      (connectToEndpoint env connectionId connType action).run
        (marked connectionId state) := by
  have hmissing : ¬ (state.manager.connections connectionId).isSome = true := by
    simp [hnone]
  rw [openConnection_eq, enterAndConnect_eq, Program.run]
  dsimp only [id]
  rw [if_neg hmissing, Program.run, if_neg hnew, if_neg hnew]
  rfl

end Parts

/-- A failed attempt leaves the manager as it was exactly when it did not get as far as
putting its connection in use. -/
theorem connectWithTicket_failed_iff {env : P2PServiceEnv} {deviceOrNodeId : String}
    {connType : ConnectionType} {action : Option ConnectionAction} {state after : P2PState}
    {error : P2PServiceError} (hnumber : NextIsNew state)
    (hfailed : (connectWithTicket env deviceOrNodeId connType action).run state =
      (.error error, after)) :
    SameRegistry state after ↔ ¬ Registers env deviceOrNodeId state := by
  unfold connectWithTicket at hfailed
  rw [Program.run_bind, Program.run_ofExcept] at hfailed
  cases hticket : nodeOfTicket env deviceOrNodeId with
  | error refusal =>
      rw [hticket] at hfailed
      cases hfailed
      refine iff_of_true (.refl _) ?_
      rintro ⟨hnode, -⟩
      rw [hticket] at hnode
      cases hnode
  | ok connectionId =>
      have hask : (onManager (isConnectionActive connectionId) : P2PCall Bool).run state =
          (.ok ((state.manager.connections connectionId).isSome ||
            decide (connectionId ∈ state.manager.connecting)), state) := rfl
      rw [hticket, Program.andThen_ok, Program.run_bind, hask, Program.andThen_ok] at hfailed
      by_cases hactive : ((state.manager.connections connectionId).isSome ||
          decide (connectionId ∈ state.manager.connecting)) = true
      · rw [if_pos hactive] at hfailed
        have hsame := @useActiveConnection_same env connectionId action state
        rw [hfailed] at hsame
        refine iff_of_true hsame ?_
        rintro ⟨hnode, hnew, hnone, -⟩
        rw [hticket] at hnode
        cases hnode
        simp [hnew, hnone] at hactive
      · rw [if_neg hactive] at hfailed
        simp only [Bool.or_eq_true, decide_eq_true_eq, not_or, Option.not_isSome_iff_eq_none]
          at hactive
        obtain ⟨hnone, hnew⟩ := hactive
        rw [openConnection_marked hnew hnone] at hfailed
        cases hconnect : env.connect connectionId with
        | error reason =>
            obtain rfl : unmarked connectionId (marked connectionId state) = after := by
              rw [← connectToEndpoint_unreached hconnect, hfailed]
            refine iff_of_true (same_unmarked hnew) ?_
            rintro ⟨hnode, -, -, hreached, -⟩
            rw [hticket] at hnode
            cases hnode
            rw [hconnect] at hreached
            cases hreached
        | ok conn =>
            by_cases hregisters : ∃ device user peerNodeId, env.currentDevice = some device ∧
                env.currentUser = some user ∧ conn.remoteNodeId = .ok peerNodeId
            · obtain ⟨device, user, peerNodeId, hdevice, huser, hnode⟩ := hregisters
              have hused := @connectToEndpoint_registers env connectionId connType action conn
                (marked connectionId state) device user peerNodeId hconnect hdevice huser hnode
              rw [hfailed] at hused
              refine iff_of_false (fun hsame => hnumber peerNodeId ?_)
                (not_not.mpr ⟨hticket, hnew, hnone, hconnect, hdevice, huser, hnode⟩)
              rw [← hsame.connections, hused, Function.update_self]
              rfl
            · have hrefused : ∀ device user peerNodeId, env.currentDevice = some device →
                  env.currentUser = some user → conn.remoteNodeId ≠ .ok peerNodeId :=
                fun device user peerNodeId hdevice huser hnode =>
                  hregisters ⟨device, user, peerNodeId, hdevice, huser, hnode⟩
              obtain rfl : unmarked connectionId (marked connectionId state) = after := by
                rw [← connectToEndpoint_refused hconnect hrefused, hfailed]
              refine iff_of_true (same_unmarked hnew) ?_
              rintro ⟨hnode, -, -, hreached, hdevice, huser, hpeer⟩
              rw [hticket] at hnode
              cases hnode
              rw [hconnect] at hreached
              cases hreached
              exact hregisters ⟨_, _, _, hdevice, huser, hpeer⟩

def dialingEnv (connect : String → Except String Connection) : P2PServiceEnv :=
  { ownerEnv with
    nodeIdFromStr := some
    nodeIdFromBytes := fun _ => .error "not an id"
    connect }

def strangerNode (nodeId : String) : Except String Connection :=
  .ok { remoteNodeId := .ok nodeId, remoteDeviceId := "dev-X" }

def idleState : P2PState :=
  { node :=
      { repo := ownerStore
        connections := fun _ =>
          .new "" "" true none none (.sample "R") (.sample "dev-R" "R") }
    opened := 0, manager := {}, isLiveEdit := fun _ => false, emitted := [] }

def dial (connect : String → Except String Connection) (action : ConnectionAction) :
    P2PCall (Option Nat) :=
  connectWithTicket (dialingEnv connect) "node-X" .user (some action)

/-- The handshake does not start and the attempt fails; the next one is given the
connection that it has left. -/
theorem failed_connect_reused :
    ∃ error after, (dial strangerNode .userSync).run idleState = (.error error, after) ∧
      ¬ SameRegistry idleState after ∧
      ((dial strangerNode .liveEdit).run after).1 = .ok (some 0) := by
  refine ⟨_, _, rfl, fun hsame => ?_, rfl⟩
  have hnone : some 0 = none := congrFun hsame.connections "node-X"
  cases hnone

theorem failed_connect_unreached :
    ∃ error after, (dial (fun _ => .error "timed out") .userSync).run idleState =
        (.error error, after) ∧
      (SameRegistry idleState after ↔
        ¬ Registers (dialingEnv fun _ => .error "timed out") "node-X" idleState) := by
  have hnumber : NextIsNew idleState := by
    intro connectionId hused
    cases hused
  obtain ⟨error, after, hrun⟩ : ∃ error after,
      (dial (fun _ => .error "timed out") .userSync).run idleState = (.error error, after) :=
    ⟨_, _, rfl⟩
  exact ⟨error, after, hrun, connectWithTicket_failed_iff hnumber hrun⟩

end Osvauld.Network
