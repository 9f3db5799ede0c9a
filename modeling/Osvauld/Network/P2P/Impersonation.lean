import Mathlib.Logic.Function.Basic
import Osvauld.Network.P2P.PeerTakeover

namespace Osvauld.Network

open Osvauld.Core CryptoUtils Data Persistance

/-! Any number of connections between users who follow the program and others
who send what they like. -/

structure Transport where
  user : Nat → User
  start : Nat → Session
  /-- The end at the other side, where the program runs there, too. -/
  otherEnd : Nat → Option Nat
  holder : String → String
  pgp : PgpLibrary
  ownId : ∀ index, pgp.keyId (user index).publicKey = .ok (user index).id
  held : ∀ index other, otherEnd index = some other →
    holder (start index).connection.remoteDeviceId = (user other).publicKey
  silent : ∀ index, (start index).connection.sent = []

abbrev EndEvent := Nat × ConnectionEvent

def stepEnd (event : EndEvent) (ends : Nat → Session) : Nat → Session :=
  Function.update ends event.1 (event.2.step (ends event.1))

namespace Transport

variable (transport : Transport)

abbrev after (events : List EndEvent) : Nat → Session :=
  run stepEnd transport.start events

/-- The event can happen: the user of the end is logged in there, and what comes
from another end was sent there. -/
def Possible (ends : Nat → Session) : EndEvent → Prop
  | (index, .deliver env message) =>
      (∀ user, env.currentUser = some user → user = transport.user index) ∧
        env.libraries.pgp = transport.pgp ∧
        ∀ other, transport.otherEnd index = some other →
          message ∈ (ends other).connection.sent
  | (index, .initiate _ _ currentUser _) => currentUser = transport.user index
  | _ => True

def PossibleRun (events : List EndEvent) : Prop :=
  ∀ earlier event, earlier ++ [event] <+: events →
    transport.Possible (transport.after earlier) event

def ReachesDeviceOf (userId : String) (connection : PeerConnection) : Prop :=
  transport.pgp.keyId (transport.holder connection.remoteDeviceId) = .ok userId

/-- The public key that signed is the one of the user at the other end, and the
id is the id of that key. -/
def OwnCredentials (credentials : Credentials) (connection : PeerConnection) :
    Prop :=
  credentials.peerUser.publicKey = transport.holder connection.remoteDeviceId ∧
    transport.pgp.keyId credentials.peerUser.publicKey = .ok credentials.peerUser.id

end Transport

structure IntroducesAs (user : User) (connection connection' : PeerConnection) :
    Prop where
  remoteDeviceId_eq : connection'.remoteDeviceId = connection.remoteDeviceId
  sent : ∀ payload, .handshake payload ∈ connection'.sent →
    .handshake payload ∈ connection.sent ∨ (credentialsOf payload).peerUser = user

namespace IntroducesAs

variable {user : User}

theorem refl (connection : PeerConnection) : IntroducesAs user connection connection :=
  ⟨rfl, fun _ => .inl⟩

theorem trans {first second third : PeerConnection}
    (hfirst : IntroducesAs user first second)
    (hsecond : IntroducesAs user second third) : IntroducesAs user first third := by
  refine ⟨hsecond.remoteDeviceId_eq.trans hfirst.remoteDeviceId_eq, ?_⟩
  intro payload hsent
  rcases hsecond.sent payload hsent with hbefore | huser
  · exact hfirst.sent payload hbefore
  · exact .inr huser

theorem allowsEverything : AllowsEverything (fun other => other = user)
    (IntroducesAs user) :=
  { refl := refl
    sent := by
      intro connection message hother
      refine ⟨rfl, fun payload hsent => ?_⟩
      rcases List.mem_append.mp hsent with hbefore | hnew
      · exact .inl hbefore
      · obtain rfl := List.mem_singleton.mp hnew
        exact absurd trivial hother
    events := fun _ _ => ⟨rfl, fun _ => .inl⟩
    introduce := by
      intro connection payload huser
      refine ⟨rfl, fun other hsent => ?_⟩
      rcases List.mem_append.mp hsent with hbefore | hnew
      · exact .inl hbefore
      · cases List.mem_singleton.mp hnew
        exact .inr huser
    connectionType := fun _ _ => ⟨rfl, fun _ => .inl⟩
    peer := fun _ _ _ => ⟨rfl, fun _ => .inl⟩
    complete := fun _ => ⟨rfl, fun _ => .inl⟩
    deviceManifest := fun _ _ => ⟨rfl, fun _ => .inl⟩
    userManifest := fun _ _ => ⟨rfl, fun _ => .inl⟩ }

end IntroducesAs

variable {transport : Transport} {events : List EndEvent}

theorem step_introducesAs {ends : Nat → Session} {index : Nat}
    {event : ConnectionEvent} (hpossible : transport.Possible ends (index, event))
    (session : Session) :
    IntroducesAs (transport.user index) session.connection
      (event.step session).connection := by
  have hall := @IntroducesAs.allowsEverything (transport.user index)
  have hrun {α : Type} {program : Handler α} (hprogram : Program.Guarantees
      (OnConnection (IntroducesAs (transport.user index))) program) :=
    run_keeps hprogram IntroducesAs.refl (fun _ _ _ => IntroducesAs.trans) session
  cases event with
  | deliver env message =>
      obtain ⟨events, heq⟩ := receive_eq env message session
      have hintroduces := hrun (processMessage_allowed hall env hpossible.1 message)
      rw [ConnectionEvent.step, heq]
      exact ⟨hintroduces.remoteDeviceId_eq, hintroduces.sent⟩
  | initiate env connectionType currentUser currentDevice =>
      exact hrun (initiateHandshake_allowed hall.toAllowsInitiation env
        connectionType currentDevice hpossible)
  | resync env => exact hrun (startUserNetworkSync_allowed hall.toAllowsTalk env)
  | elsewhere repo => exact .refl _

def Introduced (transport : Transport) (ends : Nat → Session) : Prop :=
  ∀ index, IntroducesAs (transport.user index) (transport.start index).connection
    (ends index).connection

theorem after_introduced (hpossible : transport.PossibleRun events) :
    ∀ earlier, earlier <+: events →
      Introduced transport (transport.after earlier) := by
  apply @run_invariant _ _ _ _ _ fun _ ends => Introduced transport ends
  · exact fun index => .refl _
  · rintro earlier ⟨index, event⟩ hearlier hbefore other
    by_cases hother : other = index
    · subst hother
      have hstep := step_introducesAs (hpossible earlier _ hearlier)
        (transport.after earlier other)
      simpa [stepEnd] using (hbefore other).trans hstep
    · simpa [stepEnd, hother] using hbefore other

theorem Transport.OwnCredentials.reachesDevice {credentials : Credentials}
    {connection : PeerConnection}
    (hown : transport.OwnCredentials credentials connection) :
    transport.ReachesDeviceOf credentials.peerUser.id connection := by
  have hkey := hown.2
  rw [hown.1] at hkey
  exact hkey

theorem reachesDevice_of_sent {ends : Nat → Session} {index other : Nat}
    {payload : HandshakeMessage} (hintroduced : Introduced transport ends)
    (hother : transport.otherEnd index = some other)
    (hsent : .handshake payload ∈ (ends other).connection.sent) :
    transport.ReachesDeviceOf (credentialsOf payload).peerUser.id
      (ends index).connection := by
  have huser : (credentialsOf payload).peerUser = transport.user other := by
    rcases (hintroduced other).sent payload hsent with hbefore | huser
    · rw [transport.silent] at hbefore
      cases hbefore
    · exact huser
  have hholder : transport.holder (ends index).connection.remoteDeviceId =
      (transport.user other).publicKey := by
    rw [(hintroduced index).remoteDeviceId_eq]
    exact transport.held index other hother
  unfold Transport.ReachesDeviceOf
  rw [huser, hholder]
  exact transport.ownId other

def keyText (letter : Char) : String := String.ofList (List.replicate 32 letter)

def keyed (id : String) (letter : Char) : User :=
  { User.sample id with ucanPubKey := keyText letter }

def connectTo (issuer audience : Char) : Ucan :=
  { issuer := "did:key:z.." ++ keyText issuer
    audience := "did:key:z.." ++ keyText audience
    capabilities := [⟨"livnote:user-connect:R", "use"⟩] }

def contactTokens : List (String × Ucan) :=
  [("to X", { connectTo 'r' 'x' with signedData := "to X" }),
    ("to P", { connectTo 'x' 'p' with
      proofs := some ["to X"], facts := some [("proof", .string "to X")] })]

def contactEnv (id : String) (letter : Char) : NetworkEnv :=
  .tabled contactTokens (keyed id letter) (.sample ("dev-" ++ id) id)

def contactSession (id : String) (letter : Char) (isInitiator : Bool) : Session :=
  { repo :=
      { users := [keyed id letter, keyed "X" 'x']
        devices := [.sample ("dev-" ++ id) id, .sample "dev-X" "X"]
        ucanKey := some (.sealed id (keyText letter)) }
    connection := .new "node-X" "dev-X" isInitiator none none (keyed id letter)
      (.sample ("dev-" ++ id) id) }

def contacts : Transport where
  user index := if index = 0 then keyed "P" 'p' else keyed "R" 'r'
  start index :=
    if index = 0 then contactSession "P" 'p' true else contactSession "R" 'r' false
  otherEnd _ := none
  holder _ := "X"
  pgp := (Libraries.tabled contactTokens).pgp
  ownId index := by by_cases hzero : index = 0 <;> simp [hzero] <;> rfl
  held _ _ hother := by cases hother
  silent index := by by_cases hzero : index = 0 <;> simp [hzero] <;> rfl

def exchangeAs (id : String) (letter : Char) (ucanToken : String) : HandshakeMessage :=
  .handshakeExchange
    { signedUcanPub := .signed id (keyText letter) 600, ucanToken
      peerUser := keyed id letter, peerDevice := .sample ("dev-" ++ id) id
      connectionType := .user }

def ownExchange : List EndEvent :=
  [(1, .deliver (contactEnv "R" 'r') (.handshake (exchangeAs "X" 'x' "to X")))]

theorem contacts_possible (payload : HandshakeMessage) (ends : Nat → Session) :
    contacts.Possible ends (1, .deliver (contactEnv "R" 'r') (.handshake payload)) :=
  ⟨fun _ huser => (Option.some.inj huser).symm, rfl, fun _ hother => by cases hother⟩

def stolenExchange : List EndEvent :=
  [(0, .initiate (contactEnv "P" 'p') .user (keyed "P" 'p') (.sample "dev-P" "P")),
    (1, .deliver (contactEnv "R" 'r') (.handshake (exchangeAs "P" 'p' "to P")))]

end Osvauld.Network
