import Osvauld.Network.P2P.PeerTakeover
import Osvauld.Network.P2P.StoreChanges
import Osvauld.Persistance.Contacts

namespace Osvauld.Network

open Osvauld.Core CryptoUtils Data Persistance

/-! Who the peer of a connection is taken for, and under which token keys the
users are stored. -/

section Definitions

variable (env : NetworkEnv)

/-- The signature in a handshake message certifies the token key for the holder
of the public key. -/
def Certifies (message : Message) (publicKey ucanPubKey : String) : Prop :=
  ∃ payload, message = .handshake payload ∧
    verifyClearTextMessage env.now publicKey
      (credentialsOf payload).signedUcanPub = .ok ucanPubKey

/-- The recorded peer is the user of the public key that signed, with the token
key that was signed, at the device of the transport. -/
structure BoundTo (credentials : Credentials) (connection : PeerConnection) :
    Prop where
  user : getKeyId env.libraries credentials.peerUser.publicKey =
    .ok connection.user.id
  ucanPubKey : verifyClearTextMessage env.now credentials.peerUser.publicKey
    credentials.signedUcanPub = .ok connection.user.ucanPubKey
  device : connection.device.id = connection.remoteDeviceId

/-- Every stored user is still there, under its token key or one that its stored
public key certifies in the message. -/
def KeepsIdentities (message : Message) (repo repo' : RepositoryContext) : Prop :=
  ∀ (index : Nat) (known : User), repo.users[index]? = some known →
    KeptAt (Certifies env message) known index repo'

def BringsUsers : Message → Prop
  | .handshake _ | .userNetworkSync _ | .deviceNetworkSync _ => True
  | _ => False

structure NamesItself (credentials : Credentials) (ucanPubKey : String)
    (connection : PeerConnection) : Prop where
  user : getKeyId env.libraries credentials.peerUser.publicKey =
    .ok credentials.peerUser.id
  ucanPubKey : credentials.peerUser.ucanPubKey = ucanPubKey
  device : credentials.peerDevice.id = connection.remoteDeviceId

/-- What no handler checks: a peer whose signature and token are in order names
itself, and a user that is stored already comes with its own token key. -/
structure Truthful (message : Message) (session : Session) : Prop where
  peer : ∀ payload ucanPubKey, message = .handshake payload →
    Vouched env (credentialsOf payload) ucanPubKey →
      NamesItself env (credentialsOf payload) ucanPubKey session.connection
  users : ∀ added, AddsUsers env message added → ∀ received ∈ added,
    ∀ known ∈ session.repo.users,
      AgreesWith (Certifies env message) known received.user

structure BindsIdentities (message : Message) (session session' : Session) :
    Prop where
  peer : ∀ payload, message = .handshake payload → Accepted env payload session →
    BoundTo env (credentialsOf payload) session'.connection
  users : BringsUsers message → KeepsIdentities env message session.repo
    session'.repo

end Definitions

theorem TakenOver.bound {env : NetworkEnv} {credentials : Credentials}
    {connection connection' : PeerConnection}
    (htaken : TakenOver env credentials connection connection')
    (hitself : ∀ ucanPubKey, Vouched env credentials ucanPubKey →
      NamesItself env credentials ucanPubKey connection) :
    BoundTo env credentials connection' := by
  obtain ⟨ucanPubKey, hvouched⟩ := htaken.vouched
  have hnames := hitself ucanPubKey hvouched
  refine ⟨?_, ?_, ?_⟩
  · rw [htaken.user_eq]
    exact hnames.user
  · rw [htaken.user_eq, hnames.ucanPubKey]
    exact hvouched.signature
  · rw [htaken.device_eq, htaken.remoteDeviceId_eq]
    exact hnames.device

def GoesOn (holds : RepositoryContext → Prop) (ctx ctx' : RepositoryContext) :
    Prop :=
  holds ctx → holds ctx'

instance (holds : RepositoryContext → Prop) :
    IsPreorder RepositoryContext (GoesOn holds) where
  refl _ := id
  trans _ _ _ hfirst hsecond := hsecond ∘ hfirst

section Users

variable {env : NetworkEnv} {message : Message} {known : User} {index : Nat}

theorem processMessage_keepsUser {since : Session}
    (hagrees : ∀ added, AddsUsers env message added → ∀ received ∈ added,
      AgreesWith (Certifies env message) known received.user)
    (hbrings : BringsUsers message) :
    Program.Respects
      (MovesStore (GoesOn (KeptAt (Certifies env message) known index)))
      (fun _ _ => True) since (processMessage env message) := by
  have husers : MovesWithUsers
      (GoesOn (KeptAt (Certifies env message) known index)) env message :=
    fun users _ _ hadds hadd hkept =>
      hkept.addUsersWithDevicesBulk (hagrees users hadds) hadd
  have hdevices : Services.MovesWithDevices
      (GoesOn (KeptAt (Certifies env message) known index)) :=
    fun _ _ _ hsave hkept => hkept.saveDevices hsave
  cases message with
  | handshake payload => exact handleHandshakeMessage_moves env husers
  | userNetworkSync payload =>
      exact processUserNetworkSync_moves env husers hdevices
  | deviceNetworkSync payload =>
      refine handleDeviceNetworkSync_moves env husers ?_ hdevices
      exact fun _ _ _ hadd hkept =>
        hkept.insertAll_other (fun _ _ => rfl) (reportAs_eq_ok.mp hadd)
  | _ => exact hbrings.elim

theorem receive_keepsIdentities {session : Session}
    (htruthful : Truthful env message session) (hbrings : BringsUsers message) :
    KeepsIdentities env message session.repo (receive env message session).repo := by
  intro index known hknown
  have hmem : known ∈ session.repo.users := List.mem_of_getElem? hknown
  have hmoves := @processMessage_keepsUser env message known index session
    (fun added hadds received hreceived =>
      htruthful.users added hadds received hreceived known hmem) hbrings
  rw [receive_repo]
  exact hmoves.run.1 (.of_getElem? hknown)

end Users

variable {session : Session}

theorem receive_bindsIdentities {env : NetworkEnv} {message : Message}
    (htruthful : Truthful env message session) :
    BindsIdentities env message session (receive env message session) := by
  refine ⟨?_, receive_keepsIdentities htruthful⟩
  rintro payload rfl haccepted
  have htaken := takenOver_of_accepted haccepted
  have hbound := htaken.bound fun ucanPubKey =>
    htruthful.peer payload ucanPubKey rfl
  obtain ⟨events, heq⟩ := receive_eq env (.handshake payload) session
  rw [heq]
  exact ⟨hbound.user, hbound.ucanPubKey, hbound.device⟩

/-- No handshake message has been taken up yet, or the recorded peer is bound to
the credentials of one that was delivered. -/
def PeerBound (start : Session) (earlier : List ConnectionEvent)
    (session : Session) : Prop :=
  SamePeer start.connection session.connection ∨
    ∃ env payload, .deliver env (.handshake payload) ∈ earlier ∧
      BoundTo env (credentialsOf payload) session.connection

theorem PeerBound.of_samePeer {start session' : Session} {earlier : List ConnectionEvent}
    (event : ConnectionEvent) (hbound : PeerBound start earlier session)
    (hsame : SamePeer session.connection session'.connection) :
    PeerBound start (earlier ++ [event]) session' := by
  rcases hbound with hstart | ⟨env, payload, hmem, hpeer⟩
  · exact .inl (hstart.trans hsame)
  · refine .inr ⟨env, payload, List.mem_append_left _ hmem, ?_, ?_, ?_⟩
    · rw [hsame.user_eq]
      exact hpeer.user
    · rw [hsame.user_eq]
      exact hpeer.ucanPubKey
    · rw [hsame.device_eq, hsame.remoteDeviceId_eq]
      exact hpeer.device

theorem step_samePeer {event : ConnectionEvent}
    (hother : ∀ env payload, event ≠ .deliver env (.handshake payload)) :
    SamePeer session.connection (event.step session).connection := by
  have hrun {α : Type} {program : Handler α}
      (hprogram : Program.Guarantees (OnConnection SamePeer) program) :=
    run_keeps hprogram samePeer_allowsTalk.refl (fun _ _ _ => SamePeer.trans) session
  cases event with
  | deliver env message =>
      obtain ⟨events, heq⟩ := receive_eq env message session
      have hsame := hrun (processMessage_allowed_of_handshake
        samePeer_allowsManifests env message fun payload hmessage =>
          absurd (hmessage ▸ rfl) (hother env payload))
      rw [ConnectionEvent.step, heq]
      exact ⟨hsame.user_eq, hsame.device_eq, hsame.remoteDeviceId_eq⟩
  | initiate env connectionType currentUser currentDevice =>
      exact hrun (initiateHandshake_allowed samePeer_allowsInitiation env
        connectionType currentDevice trivial)
  | resync env => exact hrun (startUserNetworkSync_allowed samePeer_allowsTalk env)
  | elsewhere repo => exact samePeer_allowsTalk.refl _

theorem step_peerBound {start : Session} {earlier : List ConnectionEvent} {event : ConnectionEvent}
    (hbound : PeerBound start earlier session)
    (htruthful : ∀ env message, event = .deliver env message → Truthful env message session) :
    PeerBound start (earlier ++ [event]) (event.step session) := by
  by_cases hhandshake : ∃ env payload, event = .deliver env (.handshake payload)
  · obtain ⟨env, payload, rfl⟩ := hhandshake
    have hpeer := (htruthful env (.handshake payload) rfl).peer payload
    obtain ⟨events, heq⟩ := receive_eq env (.handshake payload) session
    rw [ConnectionEvent.step, heq]
    rcases handleHandshakeMessage_decides env (.refl session.connection) payload with
      htaken | ⟨_, hundecided⟩
    · have hnow := htaken.bound fun ucanPubKey => hpeer ucanPubKey rfl
      exact .inr ⟨env, payload, by simp, hnow.user, hnow.ucanPubKey, hnow.device⟩
    · exact hbound.of_samePeer _ ⟨hundecided.user_eq, hundecided.device_eq,
        hundecided.remoteDeviceId_eq⟩
  · refine hbound.of_samePeer event (step_samePeer fun env payload heq => ?_)
    exact hhandshake ⟨env, payload, heq⟩

/-- In a run in which every delivered message is truthful, each accepted
handshake message binds the peer, the recorded peer stays bound, and no stored
user gets a token key that its public key does not certify. -/
theorem messages_bind_identities (start : Session) (events : List ConnectionEvent)
    (htruthful : ∀ earlier env message,
      earlier ++ [.deliver env message] <+: events →
        Truthful env message (afterEvents start earlier)) :
    (∀ earlier, earlier <+: events →
      PeerBound start earlier (afterEvents start earlier)) ∧
    ∀ earlier env message, earlier ++ [.deliver env message] <+: events →
      BindsIdentities env message (afterEvents start earlier)
        (afterEvents start (earlier ++ [.deliver env message])) := by
  refine ⟨?_, fun earlier env message hearlier => ?_⟩
  · apply @run_invariant _ _ _ _ _ (PeerBound start)
    · exact .inl (samePeer_allowsTalk.refl _)
    · intro earlier event hearlier hbound
      exact step_peerBound hbound fun env message hevent =>
        htruthful earlier env message (hevent ▸ hearlier)
  · rw [afterEvents_concat]
    exact receive_bindsIdentities (htruthful earlier env message hearlier)

def inviteEnv : NetworkEnv :=
  .tabled [("invite", { issuer := "did:key:z..R", audience := "*"
                        capabilities := [⟨"livnote:user-connect:R", "use"⟩] })]
    (.sample "R") (.sample "dev-R" "R")

def dialed (remoteDeviceId : String) : Session :=
  { repo := ownerStore
    connection := .new "node" remoteDeviceId true none none (.sample "R")
      (.sample "dev-R" "R") }

def answerOf (publicKey : String) (peerUser : User) : HandshakeMessage :=
  .handshakeFirstConnectResponse
    { devices := [], issuedUcan := "for-R"
      signedUcanPub := .signed publicKey publicKey 600, ucanToken := "invite"
      peerUser, peerDevice := .sample "dev-P" "P" }

def contactAnswer : HandshakeMessage := answerOf "P" (.sample "P")

def contactEvents : List ConnectionEvent :=
  [.deliver inviteEnv (.handshake contactAnswer)]

theorem contactAnswer_truthful :
    Truthful inviteEnv (.handshake contactAnswer) (dialed "dev-P") := by
  refine ⟨?_, ?_⟩
  · rintro payload ucanPubKey hpayload hvouched
    cases hpayload
    exact ⟨rfl, Except.ok.inj hvouched.signature, rfl⟩
  · rintro added hadds received hreceived known hknown hid
    cases hadds with
    | firstConnectResponse hvouched =>
        obtain rfl : "P" = _ := Except.ok.inj hvouched.signature
        obtain rfl := List.mem_singleton.mp hreceived
        rcases List.mem_pair.mp hknown with rfl | rfl
        · exact absurd hid (by decide)
        · exact .inl rfl

theorem contactEvents_truthful (earlier : List ConnectionEvent) (env : NetworkEnv)
    (message : Message) (hearlier : earlier ++ [.deliver env message] <+: contactEvents) :
    Truthful env message (afterEvents (dialed "dev-P") earlier) := by
  cases earlier with
  | nil =>
      simp only [contactEvents, List.nil_append, List.cons_prefix_cons,
        ConnectionEvent.deliver.injEq] at hearlier
      obtain ⟨⟨rfl, rfl⟩, _⟩ := hearlier
      exact contactAnswer_truthful
  | cons first rest => simp [contactEvents] at hearlier

theorem messages_bind_identities_contact :
    Accepted inviteEnv contactAnswer (dialed "dev-P") ∧
      BoundTo inviteEnv (credentialsOf contactAnswer)
        (afterEvents (dialed "dev-P") contactEvents).connection := by
  have haccepted : Accepted inviteEnv contactAnswer (dialed "dev-P") := .inl rfl
  exact ⟨haccepted, ((messages_bind_identities (dialed "dev-P") contactEvents
    contactEvents_truthful).2 [] inviteEnv (.handshake contactAnswer)
      List.prefix_rfl).peer contactAnswer rfl haccepted⟩

/-- Someone else to whom the invitation came answers under the id of `P`: the
connection takes them for `P`, and their token key is stored for `P`. -/
def impostorAnswer : HandshakeMessage :=
  answerOf "X" { User.sample "P" with publicKey := "X" }

theorem impostor_taken_for_contact :
    Accepted inviteEnv impostorAnswer (dialed "dev-X") ∧
      ¬BoundTo inviteEnv (credentialsOf impostorAnswer)
        (receive inviteEnv (.handshake impostorAnswer) (dialed "dev-X")).connection ∧
      ¬KeepsIdentities inviteEnv (.handshake impostorAnswer) (dialed "dev-X").repo
        (receive inviteEnv (.handshake impostorAnswer) (dialed "dev-X")).repo := by
  refine ⟨.inl rfl, fun hbound => ?_, fun hkeeps => ?_⟩
  · have hid : (Except.ok "X" : CryptoResult String) = .ok "P" := hbound.user
    exact absurd (Except.ok.inj hid) (by decide)
  · obtain ⟨row, hrow, hstill⟩ := hkeeps 1 (.sample "P") rfl
    have hkey : row.ucanPubKey = "X" := by
      cases hrow
      rfl
    rcases hstill.ucanPubKey with hsame | ⟨payload, hpayload, hsigned⟩
    · rw [hkey] at hsame
      exact absurd hsame (by decide)
    · cases hpayload
      cases hsigned

end Osvauld.Network
