import Osvauld.Network.P2P.FirstContact
import Osvauld.Services.CertificateLifeCycle

namespace Osvauld.Network

open Osvauld.Core CryptoUtils Data Persistance Services

/-! Two devices of one account: signed up on one, imported on the other. -/

def ImportedOn {Cert : Type} (libraries : Libraries) (certs : CertLibrary Cert)
    (party : Party) : Prop :=
  ∃ (now : Int) (draw : Draw) (certificate passphrase username peerDeviceId : String)
    (before after : DeviceStore Cert) (account : NewAccount Cert),
    prepareImport { libraries, certs, now } draw certificate passphrase username =
        .ok account ∧
      (importUser { libraries, certs, now } draw certificate passphrase username
          peerDeviceId).run before = (.ok (account.user, account.primaryCertificate), after) ∧
      party.user = account.user ∧ party.device = account.device ∧
      party.store.ucanKey = after.ctx.ucanKey ∧ party.user ∈ party.store.users ∧
        party.device ∈ party.store.devices

def KnowsDevice (party other : Party) : Prop :=
  UserRepo.getUserByDeviceId other.device.id party.store = .ok party.user ∧
    party.user.id = other.user.id

def pairing (libraries : Libraries) (domain : String) (times : ExchangeTimes)
    (initiator responder : Party) (iConnection rConnection : PeerConnection) :
    Option (Session × Session) := do
  let asking ← succeeded ((initiateHandshake (initiator.env libraries domain times.asked)
    .device initiator.user initiator.device).run
      { repo := initiator.store, connection := iConnection })
  let answered ← takes libraries domain responder times.answered (← lastHandshake asking)
    { repo := responder.store, connection := rConnection }
  let completed ← takes libraries domain initiator times.completed
    (← lastHandshake answered) asking
  return (completed, answered)

structure PairedWith (device : Device) (connection : PeerConnection) : Prop where
  complete : connection.handshakeComplete = true
  type_eq : connection.connectionType = some .device
  device_eq : connection.device = device

section Runs

variable {α : Type} {session after : Session}

theorem succeeded_eq_some {σ ε : Type} {outcome : Except ε α × σ} {state : σ} :
    succeeded outcome = some state ↔ ∃ value, outcome = (.ok value, state) := by
  rcases outcome with ⟨_ | value, other⟩
  · simp [succeeded]
  · simp [succeeded]

variable {value : α}

theorem callService_after {service : Service α}
    (hrun : (callService service).run session = (.ok value, after)) :
    after.connection = session.connection := by
  rw [run_callService, Prod.mk.injEq] at hrun
  rw [← hrun.2]

theorem readConnection_after {field : PeerConnection → α}
    (hrun : (readConnection field).run session = (.ok value, after)) :
    value = field session.connection ∧ after = session := by
  cases hrun
  exact ⟨rfl, rfl⟩

theorem queryRepo_after {read : RepositoryContext → Except RepositoryError α}
    (hrun : (queryRepo read).run session = (.ok value, after)) :
    read session.repo = .ok value ∧ after = session := by
  rw [queryRepo, Program.run_read, Prod.mk.injEq, mapError_eq_ok] at hrun
  exact ⟨hrun.1, hrun.2.symm⟩

theorem updateRepo_after {write : RepositoryContext → Except RepositoryError RepositoryContext}
    (hrun : (updateRepo write).run session = (.ok .unit, after)) :
    after.connection = session.connection := by
  rw [updateRepo, Program.run_write] at hrun
  cases hwrite : write session.repo with
  | error error => simp [hwrite] at hrun
  | ok repo =>
      simp only [hwrite, Prod.mk.injEq] at hrun
      rw [← hrun.2]

theorem callCrypto_after {result : CryptoResult α}
    (hrun : (callCrypto result).run session = (.ok value, after)) :
    result = .ok value ∧ after = session := by
  rw [callCrypto, Program.run_ofExcept, Prod.mk.injEq, mapError_eq_ok] at hrun
  exact ⟨hrun.1, hrun.2.symm⟩

theorem userOfRemoteDevice_after {row : User}
    (hrun : userOfRemoteDevice.run session = (.ok row, after)) :
    UserRepo.getUserByDeviceId session.connection.remoteDeviceId session.repo = .ok row ∧
      after = session := by
  rw [userOfRemoteDevice, Program.run_bind_eq_ok] at hrun
  obtain ⟨_, _, hread, hquery⟩ := hrun
  obtain ⟨rfl, rfl⟩ := readConnection_after hread
  exact queryRepo_after hquery

variable {env : NetworkEnv}

theorem getLocalUser_after {user : User}
    (hrun : (getLocalUser env).run session = (.ok user, after)) : after = session := by
  unfold getLocalUser at hrun
  split at hrun
  · cases hrun
    rfl
  · cases hrun

theorem getLocalDevice_after {device : Device}
    (hrun : (getLocalDevice env).run session = (.ok device, after)) : after = session := by
  unfold getLocalDevice at hrun
  split at hrun
  · cases hrun
    rfl
  · cases hrun

theorem requireConnectToken_after {currentUser peerUser : User} {token peerUcanPub : String}
    (hrun : (requireConnectToken env currentUser peerUser token peerUcanPub).run session =
      (.ok .unit, after)) :
    (∃ ucan, parseToken env.libraries.ucan token = .ok ucan) ∧ after = session := by
  rw [requireConnectToken, Program.run_bind_eq_ok] at hrun
  obtain ⟨valid, _, hcrypto, hrun⟩ := hrun
  obtain ⟨hvalid, rfl⟩ := callCrypto_after hcrypto
  rw [liftUcan, mapError_eq_ok, validateConnectToken, bind_eq_ok] at hvalid
  obtain ⟨ucan, hucan, -⟩ := hvalid
  rw [validateStructure, bind_eq_ok] at hucan
  obtain ⟨parsed, hparsed, -⟩ := hucan
  refine ⟨⟨parsed, hparsed⟩, ?_⟩
  split at hrun
  · cases hrun
  · cases hrun
    rfl

theorem initiateHandshake_sends {connectionType : ConnectionType} {user : User}
    {device : Device}
    (hrun : (initiateHandshake env connectionType user device).run session =
      (.ok .unit, after)) :
    ∃ row, UserRepo.getUserByDeviceId session.connection.remoteDeviceId session.repo =
        .ok row ∧
      (row.firstSync = false ∧
          (∃ request, lastHandshake after = some (.handshakeFirstConnectRequest request)) ∨
        row.firstSync = true ∧ ∃ request, lastHandshake after =
          some (.handshakeExchange request) ∧ request.ucanToken = row.ucanToken) := by
  simp only [initiateHandshake, Program.run_bind_eq_ok] at hrun
  obtain ⟨row, _, hrow, signed, _, hsigned, hrun⟩ := hrun
  obtain ⟨hrow, rfl⟩ := userOfRemoteDevice_after hrow
  refine ⟨row, hrow, ?_⟩
  split at hrun
  · next hfirst =>
      simp only [Program.run_bind_eq_ok] at hrun
      obtain ⟨_, _, _, _, _, _, hsent⟩ := hrun
      cases hsent
      exact .inl ⟨by simpa using hfirst, _, lastHandshake_sending _ _⟩
  · next hmet =>
      simp only [Program.run_bind_eq_ok] at hrun
      obtain ⟨_, _, hsent, htype⟩ := hrun
      cases hsent
      cases htype
      exact .inr ⟨by simpa using hmet, _, lastHandshake_sending _ _, rfl⟩

theorem processExchangeMessage_after {payload : UcanAndUserExchange}
    (hresponder : session.connection.isInitiator = false)
    (hrun : (processExchangeMessage env payload).run session = (.ok .unit, after)) :
    (∃ ucan, parseToken env.libraries.ucan payload.ucanToken = .ok ucan) ∧
      after.connection.connectionType = some .user := by
  simp only [processExchangeMessage, Program.run_bind_eq_ok] at hrun
  obtain ⟨peerUcanPub, _, hverify, currentUser, _, huser, currentDevice, _, hdevice, _, _,
    hrequire, _, _, hpeer, isInitiator, _, hread, hrun⟩ := hrun
  obtain ⟨-, rfl⟩ := callCrypto_after hverify
  obtain rfl := getLocalUser_after huser
  obtain rfl := getLocalDevice_after hdevice
  obtain ⟨hparsed, rfl⟩ := requireConnectToken_after hrequire
  cases hpeer
  obtain ⟨rfl, rfl⟩ := readConnection_after hread
  refine ⟨hparsed, ?_⟩
  rw [if_neg (by simpa using hresponder)] at hrun
  simp only [Program.run_bind_eq_ok] at hrun
  obtain ⟨_, _, _, _, _, _, _, _, _, _, _, _, htype⟩ := hrun
  cases htype
  rfl

theorem processFirstUserConnectionRequest_after {payload : FirstConnectRequest}
    (hrun : (processFirstUserConnectionRequest env payload).run session =
      (.ok .unit, after)) : after.connection.connectionType = some .user := by
  simp only [processFirstUserConnectionRequest, Program.run_bind_eq_ok] at hrun
  obtain ⟨currentUser, _, huser, currentDevice, _, hdevice, peerUcanPub, _, hverify, _, _,
    hrequire, signed, _, hsigned, token, _, htoken, _, _, htype, _, _, hpeer, _, _, hrows,
    devices, _, hdevices, _, _, hcomplete, hsent⟩ := hrun
  cases htype
  cases hpeer
  have hkept := updateRepo_after hrows
  have hkept' := callService_after hdevices
  cases hcomplete
  cases hsent
  exact congrArg PeerConnection.connectionType (hkept'.trans hkept)

end Runs

section Pairing

variable {libraries : Libraries} {domain : String} {times : ExchangeTimes}
variable {initiator responder : Party} {iConnection rConnection : PeerConnection}

theorem pairing_eq_some {completed answered : Session}
    (hpairing : pairing libraries domain times initiator responder iConnection rConnection =
      some (completed, answered)) :
    ∃ asking request, (initiateHandshake (initiator.env libraries domain times.asked)
        .device initiator.user initiator.device).run
          { repo := initiator.store, connection := iConnection } = (.ok .unit, asking) ∧
      lastHandshake asking = some request ∧
      (processMessage (responder.env libraries domain times.answered)
        (.handshake request)).run { repo := responder.store, connection := rConnection } =
          (.ok .unit, answered) := by
  simp only [pairing, takes, Option.bind_eq_bind, Option.bind_eq_some_iff,
    succeeded_eq_some] at hpairing
  obtain ⟨asking, ⟨_, hasking⟩, request, hrequest, answered', ⟨_, hanswered⟩, response, _,
    completed', _, hresult⟩ := hpairing
  cases hresult
  exact ⟨asking, request, hasking, hrequest, hanswered⟩

theorem not_pairedWith (hresponder : rConnection.isInitiator = false)
    {completed answered : Session} {device : Device}
    (hpairing : pairing libraries domain times initiator responder iConnection rConnection =
      some (completed, answered)) : ¬ PairedWith device answered.connection := by
  obtain ⟨asking, request, hasking, hrequest, hanswered⟩ := pairing_eq_some hpairing
  have htype : answered.connection.connectionType = some .user := by
    obtain ⟨row, _, ⟨_, payload, hpayload⟩ | ⟨_, payload, hpayload, _⟩⟩ :=
      initiateHandshake_sends hasking
    · obtain rfl := Option.some.inj (hrequest.symm.trans hpayload)
      exact processFirstUserConnectionRequest_after hanswered
    · obtain rfl := Option.some.inj (hrequest.symm.trans hpayload)
      exact (processExchangeMessage_after hresponder hanswered).2
  intro hpaired
  cases htype.symm.trans hpaired.type_eq

theorem pairing_eq_none {row : User} (hresponder : rConnection.isInitiator = false)
    (hrow : UserRepo.getUserByDeviceId iConnection.remoteDeviceId initiator.store = .ok row)
    (hmet : row.firstSync = true)
    (hnone : ∀ ucan, parseToken libraries.ucan row.ucanToken ≠ .ok ucan) :
    pairing libraries domain times initiator responder iConnection rConnection = none := by
  rw [Option.eq_none_iff_forall_ne_some]
  rintro ⟨completed, answered⟩ hpairing
  obtain ⟨asking, request, hasking, hrequest, hanswered⟩ := pairing_eq_some hpairing
  obtain ⟨found, hfound, hcases⟩ := initiateHandshake_sends hasking
  obtain rfl := Except.ok.inj (hrow.symm.trans hfound)
  rcases hcases with ⟨hfirst, _⟩ | ⟨_, payload, hpayload, htoken⟩
  · cases hmet.symm.trans hfirst
  · obtain rfl := Option.some.inj (hrequest.symm.trans hpayload)
    obtain ⟨⟨ucan, hparsed⟩, -⟩ := processExchangeMessage_after hresponder hanswered
    exact hnone ucan (htoken ▸ hparsed)

end Pairing

section Accounts

variable {Cert : Type} {libraries : Libraries} {certs : CertLibrary Cert} {party : Party}

def ownerToken : String := "owner_token"

theorem SignedUp.row (hsigned : SignedUp libraries certs party) :
    party.user.firstSync = true ∧ party.user.ucanToken = ownerToken := by
  obtain ⟨_, _, _, _, _, _, _, _, _, _, hprepare, _, huser, _⟩ := hsigned
  simp only [prepareSignup, bind_eq_ok] at hprepare
  obtain ⟨_, _, _, _, _, _, _, _, _, _, _, _, _, _, hresult⟩ := hprepare
  cases hresult
  rw [huser]
  exact ⟨rfl, rfl⟩

theorem ImportedOn.row (himported : ImportedOn libraries certs party) :
    party.user.firstSync = true ∧ party.user.ucanToken = ownerToken := by
  obtain ⟨_, _, _, _, _, _, _, _, _, hprepare, _, huser, _⟩ := himported
  simp only [prepareImport, bind_eq_ok] at hprepare
  obtain ⟨_, _, _, _, _, _, _, _, _, _, hresult⟩ := hprepare
  cases hresult
  rw [huser]
  exact ⟨rfl, rfl⟩

end Accounts

/-- Whatever the two stores have become, the initiator is not accepted as a device of the
responder's user, and with its own row as it was made it is not accepted at all. -/
def NeverPairs (libraries : Libraries) (domain : String) (initiator responder : Party) :
    Prop :=
  ∀ (times : ExchangeTimes) (iStore rStore : RepositoryContext)
    (iConnection rConnection : PeerConnection),
    iConnection.remoteDeviceId = responder.device.id → rConnection.isInitiator = false →
      let iLater := { initiator with store := iStore }
      let result := pairing libraries domain times iLater { responder with store := rStore }
        iConnection rConnection
      (∀ completed answered, result = some (completed, answered) →
          ¬ PairedWith initiator.device answered.connection) ∧
        (UserRepo.getUserByDeviceId responder.device.id iStore = .ok initiator.user →
          result = none)

theorem neverPairs_of_row {libraries : Libraries} {domain : String}
    {initiator responder : Party}
    (hnone : ∀ ucan, parseToken libraries.ucan ownerToken ≠ .ok ucan)
    (hrow : initiator.user.firstSync = true ∧ initiator.user.ucanToken = ownerToken) :
    NeverPairs libraries domain initiator responder := by
  intro times iStore rStore iConnection rConnection hremote hresponder
  refine ⟨fun completed answered hpairing => not_pairedWith hresponder hpairing,
    fun hknown => ?_⟩
  exact pairing_eq_none hresponder (hremote ▸ hknown) hrow.1 (hrow.2.symm ▸ hnone)

/-- The devices of one account do not pair, whichever of them begins. -/
theorem own_devices_never_pair {Cert : Type} {libraries : Libraries}
    {certs : CertLibrary Cert} {phone laptop : Party} (domain : String)
    (hnone : ∀ ucan, parseToken libraries.ucan ownerToken ≠ .ok ucan)
    (hphone : SignedUp libraries certs phone) (hlaptop : ImportedOn libraries certs laptop) :
    NeverPairs libraries domain phone laptop ∧ NeverPairs libraries domain laptop phone :=
  ⟨neverPairs_of_row hnone hphone.row, neverPairs_of_row hnone hlaptop.row⟩

namespace OneAccount

open TextCertificate (libraries certs)

def phoneDraw : Draw := TextCertificate.draw

def laptopDraw : Draw := { phoneDraw with deviceKey := List.replicate 32 67 }

def env : AuthEnv String := { libraries, certs, now := 0 }

def signedUp : DeviceStore String :=
  ((handleSignup env phoneDraw "alice" "first" "livnote").run {}).2

def phoneDevice : Device :=
  let id := bytesText phoneDraw.deviceKey
  .new 0 id id "alice"

def laptopDevice : Device :=
  let id := bytesText laptopDraw.deviceKey
  .new 0 id id "alice"

def imported : DeviceStore String :=
  ((importUser env laptopDraw "alice" "second" "alice" phoneDevice.id).run {}).2

def phone : Party :=
  { user := .new 0 "alice" "alice" "alice" "signature" true true ownerToken "owner_cid"
      (bytesText (List.replicate 32 65))
    device := phoneDevice
    store := { signedUp.ctx with devices := signedUp.ctx.devices ++ [laptopDevice] } }

def laptop : Party :=
  { user := .new 0 "alice" "alice" "alice" "signature" true true ownerToken
      (bytesText (List.replicate 32 65)) "owner_cid"
    device := laptopDevice
    store := imported.ctx }

def connection (own other : Party) (isInitiator : Bool) : PeerConnection :=
  .new "node" other.device.id isInitiator (some .deviceSync)
    (if isInitiator then some .device else none) own.user own.device

def times : ExchangeTimes := { asked := 1, answered := 2, completed := 3 }

theorem signedUp_phone : SignedUp libraries certs phone :=
  ⟨0, phoneDraw, "alice", "first", "livnote", {}, signedUp, _, _, _, rfl, rfl, rfl, rfl, rfl,
    List.mem_singleton.mpr rfl, List.mem_cons_self⟩

theorem importedOn_laptop : ImportedOn libraries certs laptop :=
  ⟨0, laptopDraw, "alice", "second", "alice", phoneDevice.id, {}, imported, _, rfl, rfl, rfl,
    rfl, rfl, List.mem_singleton.mpr rfl, List.mem_cons_self⟩

theorem not_token (ucan : Ucan) : parseToken libraries.ucan ownerToken ≠ .ok ucan := nofun

end OneAccount

open OneAccount in
theorem own_devices_never_pair_oneAccount :
    NeverPairs TextCertificate.libraries "livnote" phone laptop ∧
      NeverPairs TextCertificate.libraries "livnote" laptop phone :=
  own_devices_never_pair "livnote" not_token signedUp_phone importedOn_laptop

open OneAccount in
/-- Neither of the two is accepted by the other. -/
theorem own_devices_refused :
    SignedUp TextCertificate.libraries TextCertificate.certs phone ∧
      ImportedOn TextCertificate.libraries TextCertificate.certs laptop ∧
        KnowsDevice phone laptop ∧ KnowsDevice laptop phone ∧
          pairing TextCertificate.libraries "livnote" times phone laptop
              (connection phone laptop true) (connection laptop phone false) = none ∧
            pairing TextCertificate.libraries "livnote" times laptop phone
              (connection laptop phone true) (connection phone laptop false) = none := by
  have hphone : NeverPairs TextCertificate.libraries "livnote" phone laptop :=
    neverPairs_of_row not_token signedUp_phone.row
  have hlaptop : NeverPairs TextCertificate.libraries "livnote" laptop phone :=
    neverPairs_of_row not_token importedOn_laptop.row
  refine ⟨signedUp_phone, importedOn_laptop, ⟨by decide +kernel, rfl⟩,
    ⟨by decide +kernel, rfl⟩, ?_, ?_⟩
  · exact (hphone times phone.store laptop.store _ _ rfl rfl).2 (by decide +kernel)
  · exact (hlaptop times laptop.store phone.store _ _ rfl rfl).2 (by decide +kernel)

end Osvauld.Network
