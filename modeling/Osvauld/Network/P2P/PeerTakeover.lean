import Osvauld.Network.P2P.ConnectionChanges

namespace Osvauld.Network

open Osvauld.Core CryptoUtils Data

variable (env : NetworkEnv)

/-! The handler either takes over the peer that the message names or leaves the
connection to the one it knew. -/

structure SamePeer (connection connection' : PeerConnection) : Prop where
  user_eq : connection'.user = connection.user
  device_eq : connection'.device = connection.device
  remoteDeviceId_eq : connection'.remoteDeviceId = connection.remoteDeviceId

theorem samePeer_allowsTalk : AllowsTalk SamePeer :=
  { refl := fun _ => ⟨rfl, rfl, rfl⟩
    sent := fun _ _ _ => ⟨rfl, rfl, rfl⟩
    events := fun _ _ => ⟨rfl, rfl, rfl⟩ }

theorem samePeer_allowsInitiation : AllowsInitiation (fun _ => True) SamePeer :=
  { toAllowsTalk := samePeer_allowsTalk
    introduce := fun _ _ _ => ⟨rfl, rfl, rfl⟩
    connectionType := fun _ _ => ⟨rfl, rfl, rfl⟩ }

theorem samePeer_allowsManifests : AllowsManifests SamePeer :=
  { toAllowsTalk := samePeer_allowsTalk
    deviceManifest := fun _ _ => ⟨rfl, rfl, rfl⟩
    userManifest := fun _ _ => ⟨rfl, rfl, rfl⟩ }

theorem SamePeer.trans {first second third : PeerConnection}
    (hfirst : SamePeer first second) (hsecond : SamePeer second third) :
    SamePeer first third :=
  ⟨hsecond.user_eq.trans hfirst.user_eq, hsecond.device_eq.trans hfirst.device_eq,
    hsecond.remoteDeviceId_eq.trans hfirst.remoteDeviceId_eq⟩

structure Undecided (connection connection' : PeerConnection) : Prop
    extends SamePeer connection connection' where
  handshakeComplete_eq :
    connection'.handshakeComplete = connection.handshakeComplete

theorem Undecided.refl (connection : PeerConnection) :
    Undecided connection connection :=
  ⟨⟨rfl, rfl, rfl⟩, rfl⟩

structure TakenOver (credentials : Credentials)
    (connection connection' : PeerConnection) : Prop where
  vouched : ∃ ucanPubKey, Vouched env credentials ucanPubKey
  user_eq : connection'.user = credentials.peerUser
  device_eq : connection'.device = credentials.peerDevice
  remoteDeviceId_eq : connection'.remoteDeviceId = connection.remoteDeviceId

def Decides (credentials : Credentials) (connection : PeerConnection)
    (ending : Except P2PError PUnit × Session) : Prop :=
  TakenOver env credentials connection ending.2.connection ∨
    (∃ error, ending.1 = .error error) ∧
      Undecided connection ending.2.connection

namespace Decides

variable {env} {credentials : Credentials} {connection : PeerConnection}
variable {session : Session}

theorem fail {error : P2PError}
    (hundecided : Undecided connection session.connection) :
    Decides env credentials connection (.error error, session) :=
  .inr ⟨⟨error, rfl⟩, hundecided⟩

section

variable {α : Type} {continuation : α → Handler PUnit}

theorem bind {first : Handler α} (hfirst : Undecided connection (first.run session).2.connection)
    (hrest : ∀ value, (first.run session).1 = .ok value →
      Decides env credentials connection
        ((continuation value).run (first.run session).2)) :
    Decides env credentials connection ((first >>= continuation).run session) := by
  rw [Program.run_bind]
  cases hrun : first.run session with
  | mk outcome middle =>
      rw [hrun] at hfirst hrest
      cases outcome with
      | ok value => exact hrest value rfl
      | error error => exact fail hfirst

theorem callCrypto {result : CryptoResult α} (hsession : Undecided connection session.connection)
    (hrest : ∀ value, result = .ok value →
      Decides env credentials connection ((continuation value).run session)) :
    Decides env credentials connection
      ((callCrypto result >>= continuation).run session) :=
  bind hsession fun value hvalue => hrest value (mapError_eq_ok.mp hvalue)

theorem callService {service : Services.Service α}
    (hsession : Undecided connection session.connection)
    (hrest : ∀ value repo, Decides env credentials connection
      ((continuation value).run { session with repo })) :
    Decides env credentials connection
      ((callService service >>= continuation).run session) := by
  apply bind
  · rw [run_callService]
    exact hsession
  · intro value _
    rw [run_callService]
    exact hrest value _

end

theorem getLocalUser {continuation : User → Handler PUnit}
    (hsession : Undecided connection session.connection)
    (hrest : ∀ user, env.currentUser = some user →
      Decides env credentials connection ((continuation user).run session)) :
    Decides env credentials connection
      ((getLocalUser env >>= continuation).run session) := by
  unfold Network.getLocalUser
  cases huser : env.currentUser with
  | none => exact fail hsession
  | some user => exact hrest user huser

theorem getLocalDevice {continuation : Device → Handler PUnit}
    (hsession : Undecided connection session.connection)
    (hrest : ∀ device,
      Decides env credentials connection ((continuation device).run session)) :
    Decides env credentials connection
      ((getLocalDevice env >>= continuation).run session) := by
  unfold Network.getLocalDevice
  cases env.currentDevice with
  | none => exact fail hsession
  | some device => exact hrest device

theorem requireConnectToken {currentUser peerUser : User}
    {token peerUcanPub : String} {continuation : PUnit → Handler PUnit}
    (hsession : Undecided connection session.connection)
    (hrest : validateConnectToken env.libraries.ucan env.now token peerUcanPub
        currentUser.ucanPubKey currentUser.id env.domain = .ok true →
      Decides env credentials connection ((continuation .unit).run session)) :
    Decides env credentials connection
      ((requireConnectToken env currentUser peerUser token peerUcanPub >>=
        continuation).run session) := by
  unfold Network.requireConnectToken
  cases htoken : validateConnectToken env.libraries.ucan env.now token peerUcanPub
      currentUser.ucanPubKey currentUser.id env.domain with
  | error error => exact fail hsession
  | ok valid =>
      cases valid with
      | false => exact fail hsession
      | true => exact hrest htoken

theorem setPeerUserAndDevice {ucanPubKey : String}
    {continuation : PUnit → Handler PUnit}
    (hvouched : Vouched env credentials ucanPubKey)
    (hsession : Undecided connection session.connection)
    (hrest : Program.Guarantees (OnConnection SamePeer) (continuation .unit)) :
    Decides env credentials connection
      ((setPeerUserAndDevice credentials.peerUser credentials.peerDevice >>=
        continuation).run session) := by
  have hkept := run_keeps hrest samePeer_allowsTalk.refl
    (fun _ _ _ => SamePeer.trans)
    { session with connection := { session.connection with
        user := credentials.peerUser, device := credentials.peerDevice } }
  exact .inl
    { vouched := ⟨ucanPubKey, hvouched⟩
      user_eq := hkept.user_eq
      device_eq := hkept.device_eq
      remoteDeviceId_eq := hkept.remoteDeviceId_eq.trans hsession.remoteDeviceId_eq }

end Decides

section Handlers

variable {connection : PeerConnection} {session : Session}
variable (hsession : Undecided connection session.connection)

theorem setHandshakeComplete_samePeer :
    Program.Guarantees (OnConnection SamePeer) setHandshakeComplete :=
  .connection_change fun _ => ⟨rfl, rfl, rfl⟩

include hsession

theorem processExchangeMessage_decides (payload : UcanAndUserExchange) :
    Decides env (credentialsOf (.handshakeExchange payload)) connection
      ((processExchangeMessage env payload).run session) := by
  have htalk := samePeer_allowsTalk
  refine .callCrypto hsession fun peerUcanPub hsignature => ?_
  refine .getLocalUser hsession fun currentUser huser => ?_
  refine .getLocalDevice hsession fun currentDevice => ?_
  refine .requireConnectToken hsession fun htoken => ?_
  refine .setPeerUserAndDevice ⟨hsignature, currentUser, huser, htoken⟩
    hsession ?_
  refine .bind (.connection_read htalk.refl _) fun isInitiator => .ite ?_ ?_
  · refine .bind setHandshakeComplete_samePeer fun _ => ?_
    exact startUserNetworkSync_allowed htalk env
  · refine .bind (.connection_callService htalk.refl _) fun signed => ?_
    refine .bind (userOfRemoteDevice_allowed samePeer_allowsInitiation)
      fun peerUser => ?_
    refine .bind setHandshakeComplete_samePeer fun _ => ?_
    refine .bind (sendHandshake_allowed samePeer_allowsInitiation trivial)
      fun _ => ?_
    exact setConnectionType_allowed samePeer_allowsInitiation _

theorem processFirstUserConnectionRequest_decides
    (payload : FirstConnectRequest) :
    Decides env (credentialsOf (.handshakeFirstConnectRequest payload)) connection
      ((processFirstUserConnectionRequest env payload).run session) := by
  have htalk := samePeer_allowsTalk
  refine .getLocalUser hsession fun currentUser huser => ?_
  refine .getLocalDevice hsession fun currentDevice => ?_
  refine .callCrypto hsession fun peerUcanPub hsignature => ?_
  refine .requireConnectToken hsession fun htoken => ?_
  refine .callService hsession fun signed repo => ?_
  refine .callService hsession fun issued repo => ?_
  have htyped (connectionType : Option ConnectionType) : Undecided connection
      { session.connection with connectionType } :=
    ⟨⟨hsession.user_eq, hsession.device_eq, hsession.remoteDeviceId_eq⟩,
      hsession.handshakeComplete_eq⟩
  refine .bind (htyped _) fun _ _ => ?_
  refine .setPeerUserAndDevice ⟨hsignature, currentUser, huser, htoken⟩
    (htyped _) ?_
  refine .bind (.connection_updateRepo htalk.refl _) fun _ => ?_
  refine .bind (.connection_callService htalk.refl _) fun myDevices => ?_
  refine .bind setHandshakeComplete_samePeer fun _ => ?_
  exact sendHandshake_allowed samePeer_allowsInitiation trivial

theorem processFirstUserConnectionHandshakeResponse_decides
    (payload : FirstConnectResponse) :
    Decides env (credentialsOf (.handshakeFirstConnectResponse payload)) connection
      ((processFirstUserConnectionHandshakeResponse env payload).run session) := by
  have htalk := samePeer_allowsTalk
  refine .callCrypto hsession fun peerUcanPub hsignature => ?_
  refine .getLocalUser hsession fun currentUser huser => ?_
  refine .requireConnectToken hsession fun htoken => ?_
  refine .setPeerUserAndDevice ⟨hsignature, currentUser, huser, htoken⟩
    hsession ?_
  refine .bind setHandshakeComplete_samePeer fun _ => ?_
  refine .bind (.connection_updateRepo htalk.refl _) fun _ => ?_
  exact startUserNetworkSync_allowed htalk env

theorem handleHandshakeMessage_decides (payload : HandshakeMessage) :
    Decides env (credentialsOf payload) connection
      ((handleHandshakeMessage env payload).run session) := by
  cases payload with
  | handshakeFirstConnectRequest payload =>
      exact processFirstUserConnectionRequest_decides env hsession payload
  | handshakeFirstConnectResponse payload =>
      exact processFirstUserConnectionHandshakeResponse_decides env hsession
        payload
  | handshakeExchange payload =>
      exact processExchangeMessage_decides env hsession payload

end Handlers

theorem takenOver_of_accepted {env : NetworkEnv} {payload : HandshakeMessage}
    {session : Session} (haccepted : Accepted env payload session) :
    TakenOver env (credentialsOf payload) session.connection
      ((handleHandshakeMessage env payload).run session).2.connection := by
  rcases handleHandshakeMessage_decides env (.refl session.connection) payload with
    htaken | ⟨⟨error, herror⟩, hundecided⟩
  · exact htaken
  · rcases haccepted with hok | ⟨hopen, hcomplete⟩
    · rw [hok] at herror
      cases herror
    · rw [hundecided.handshakeComplete_eq, hopen] at hcomplete
      cases hcomplete

end Osvauld.Network
