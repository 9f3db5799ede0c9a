import Osvauld.CryptoUtils.ConnectTokens
import Osvauld.Network.P2P.ProcessMessage
import Osvauld.Persistance.Contacts
import Osvauld.Services.AuthCalls

namespace Osvauld.Network

open Osvauld.Core CryptoUtils Data Data.KeyedInserts Persistance Services

/-! Two devices, each with an account, that connect for the first time and later
again. -/

structure Party where
  user : User
  device : Device
  store : RepositoryContext

def Party.env (party : Party) (libraries : Libraries) (domain : String) (now : Int) :
    NetworkEnv :=
  { libraries, cert := some party.user.publicKey, now, domain, fuel := 0
    currentUser := some party.user, currentDevice := some party.device }

def SignedUp {Cert : Type} (libraries : Libraries) (certs : CertLibrary Cert)
    (party : Party) : Prop :=
  ∃ (now : Int) (draw : Draw) (username passphrase domain : String)
    (before after : DeviceStore Cert) (account : NewAccount Cert) (folder : Folder)
    (record : FolderShareRecord),
    prepareSignup { libraries, certs, now } draw username passphrase domain =
        .ok (account, folder, record) ∧
      (handleSignup { libraries, certs, now } draw username passphrase domain).run before =
        (.ok .unit, after) ∧
      party.user = account.user ∧ party.device = account.device ∧
      party.store.ucanKey = after.ctx.ucanKey ∧ party.user ∈ party.store.users ∧
        party.device ∈ party.store.devices

structure Unknown (other : Party) (store : RepositoryContext) : Prop where
  id : ∀ known ∈ store.users, known.id ≠ other.user.id
  username : ∀ known ∈ store.users, known.username ≠ other.user.username
  devices : ∀ device ∈ UserRepo.devicesOf other.store other.user.id,
    ∀ known ∈ store.devices, known.id ≠ device.id ∧ known.deviceKey ≠ device.deviceKey

def succeeded {σ ε α : Type} : Except ε α × σ → Option σ
  | (.ok _, state) => some state
  | (.error _, _) => none

def lastHandshake (session : Session) : Option HandshakeMessage :=
  match session.connection.sent.getLast? with
  | some (.handshake payload) => some payload
  | _ => none

structure ContactTimes where
  generated : Int
  added : Int
  asked : Int
  answered : Int
  completed : Int

section Runs

variable (libraries : Libraries) (domain : String) (connectionType : ConnectionType)

def takes (party : Party) (now : Int) (payload : HandshakeMessage) (session : Session) :
    Option Session :=
  succeeded ((processMessage (party.env libraries domain now) (.handshake payload)).run
    session)

/-- `b` adds `a` with a token that `a` has given out, and connects. -/
def firstContact (times : ContactTimes) (a b : Party)
    (aConnection bConnection : PeerConnection) : Option (Session × Session) := do
  let encryptedKey ← a.store.ucanKey
  let (oneTimeToken, ucanPubKey) ← (generateOneTimeUserConnectToken libraries
    (some a.user.publicKey) times.generated encryptedKey domain).toOption
  let bStore ← succeeded ((addKnownUser
    (b.env libraries domain times.added).toServiceEnv a.user.username a.user.publicKey
    a.device.id oneTimeToken ucanPubKey).run b.store)
  let bAsking ← succeeded ((initiateHandshake (b.env libraries domain times.asked)
    connectionType b.user b.device).run { repo := bStore, connection := bConnection })
  match ← lastHandshake bAsking with
  | .handshakeFirstConnectRequest request =>
      let aDone ← takes libraries domain a times.answered
        (.handshakeFirstConnectRequest request)
        { repo := a.store, connection := aConnection }
      match ← lastHandshake aDone with
      | .handshakeFirstConnectResponse response =>
          let bDone ← takes libraries domain b times.completed
            (.handshakeFirstConnectResponse response) bAsking
          return (aDone, bDone)
      | _ => none
  | _ => none

structure ExchangeTimes where
  asked : Int
  answered : Int
  completed : Int

def exchange (times : ExchangeTimes) (initiator responder : Party)
    (iConnection rConnection : PeerConnection) : Option (Session × Session) := do
  let asking ← succeeded ((initiateHandshake (initiator.env libraries domain times.asked)
    connectionType initiator.user initiator.device).run
      { repo := initiator.store, connection := iConnection })
  match ← lastHandshake asking with
  | .handshakeExchange request =>
      let answered ← takes libraries domain responder times.answered
        (.handshakeExchange request) { repo := responder.store, connection := rConnection }
      match ← lastHandshake answered with
      | .handshakeExchange response =>
          let completed ← takes libraries domain initiator times.completed
            (.handshakeExchange response) asking
          return (completed, answered)
      | _ => none
  | _ => none

end Runs

def Prompt (sent handled : Int) : Prop := sent ≤ handled ∧ handled < sent + signatureLifetime

structure ContactTimes.InTime (times : ContactTimes) : Prop where
  oneTime : times.generated ≤ times.answered ∧
    times.answered < times.generated + oneTimeLifetime
  answered : Prompt times.asked times.answered
  completed : Prompt times.answered times.completed

/-- The other end is stored as the user of its device, under its certified token
key, with a token that it takes for thirty years. -/
def Befriended (libraries : Libraries) (domain : String) (since : Int) (party other : Party)
    (store : RepositoryContext) : Prop :=
  ∃ row, UserRepo.getUserById other.user.id store = .ok row ∧
    UserRepo.getUserByDeviceId other.device.id store = .ok row ∧
    row.firstSync = true ∧ row.ucanPubKey = other.user.ucanPubKey ∧
    ∀ now, since ≤ now → now < since + thirtyYears →
      validateConnectToken libraries.ucan now row.ucanToken party.user.ucanPubKey
        other.user.ucanPubKey other.user.id domain = .ok true

structure KeepsContact (deviceId : String) (store store' : RepositoryContext) : Prop where
  contact : UserRepo.getUserByDeviceId deviceId store' =
    UserRepo.getUserByDeviceId deviceId store
  ucanKey : store'.ucanKey = store.ucanKey

structure Account (libraries : Libraries) (signingKey : Bytes) (party : Party) : Prop where
  id : getKeyId libraries party.user.publicKey = .ok party.user.id
  length : signingKey.length = 32
  ucanPubKey : party.user.ucanPubKey = ucanPubKeyOf libraries signingKey
  ucanKey : party.store.ucanKey =
    some (sealedTokenKey libraries party.user.publicKey signingKey)
  user : party.user ∈ party.store.users
  device : party.device ∈ party.store.devices
  deviceOwner : party.device.userId = party.user.id
  deviceKey : party.device.deviceKey = party.device.id

theorem handleSignup_ucanKey {Cert : Type} {env : AuthEnv Cert} {draw : Draw}
    {username passphrase domain : String} {before after : DeviceStore Cert}
    {account : NewAccount Cert} {folder : Folder} {record : FolderShareRecord}
    (hprepare : prepareSignup env draw username passphrase domain =
      .ok (account, folder, record))
    (hsignup : (handleSignup env draw username passphrase domain).run before =
      (.ok .unit, after)) :
    after.ctx.ucanKey = account.ucanCertificate.privateKey.pgp? := by
  rcases @handleSignup_cases _ env draw before username passphrase domain with
    ⟨error, herror⟩ | ⟨_, _, _, committed, hprepare', hcommitted, hrun⟩
  · rw [hsignup] at herror
    cases herror
  rw [hprepare] at hprepare'
  cases hprepare'
  rw [hsignup, updateTables, updateStore, Program.run_write] at hrun
  cases hsave : FolderRepo.saveFolderWithShareRecord folder record committed.ctx with
  | error error => simp [hsave, Except.map, Except.mapError] at hrun
  | ok ctx =>
      obtain ⟨inserted, hfolder, hrecord⟩ := bind_eq_ok.mp (reportAs_eq_ok.mp hsave)
      obtain rfl : after = { committed with ctx } := by
        simpa [hsave, Except.map, Except.mapError] using hrun
      rw [(Table.insert_abort_eq_ok hrecord).2, (Table.insert_abort_eq_ok hfolder).2,
        hcommitted.tables]
      rfl

theorem prepareSignup_account {Cert : Type} {env : AuthEnv Cert} {draw : Draw}
    {username passphrase domain : String} {account : NewAccount Cert} {folder : Folder}
    {record : FolderShareRecord}
    (hencodings : LawfulEncodings env.libraries.ucan.encodings)
    (hprepare : prepareSignup env draw username passphrase domain =
      .ok (account, folder, record)) :
    ∃ signingKey, signingKey.length = 32 ∧
      getKeyId env.libraries account.user.publicKey = .ok account.user.id ∧
      account.user.ucanPubKey = ucanPubKeyOf env.libraries signingKey ∧
      account.ucanCertificate.privateKey =
        .pgp (sealedTokenKey env.libraries account.user.publicKey signingKey) ∧
      account.device.userId = account.user.id ∧
        account.device.deviceKey = account.device.id := by
  simp only [prepareSignup, bind_eq_ok, ofCrypto_eq_ok, createDevice] at hprepare
  obtain ⟨primary, hprimary, opened, hopened, userId, hid, ucanCertificate, hucan,
    signingKey, hsigning, token, -, pair, ⟨keys, -, hpair⟩, hresult⟩ := hprepare
  simp only [createCertificate, generateKeys, bind_eq_ok, ofCrypto_eq_ok,
    mapError_eq_ok] at hprimary
  obtain ⟨cert, -, hprimary⟩ := hprimary
  cases hprimary
  rw [decryptCertificate_sealed, if_pos rfl] at hopened
  cases hopened
  obtain ⟨derived, -, rfl⟩ := generateUcanKey_eq_ok hucan
  cases hpair
  cases hresult
  refine ⟨derived, ?_, hid, rfl, rfl, rfl, rfl⟩
  -- Signing up opens the key that it has just sealed.
  simp only [decryptUcanKey, getCert, decryptTextPgp, ucanPrivateKey, StoredText.pgp?,
    Option.getD_some, bind, Except.bind, if_true, hencodings.base64] at hsigning
  split at hsigning
  · assumption
  · cases hsigning

theorem SignedUp.account {Cert : Type} {libraries : Libraries} {certs : CertLibrary Cert}
    {party : Party} (hencodings : LawfulEncodings libraries.ucan.encodings)
    (hsigned : SignedUp libraries certs party) :
    ∃ signingKey, Account libraries signingKey party := by
  obtain ⟨now, draw, username, passphrase, domain, before, after, account, folder, record,
    hprepare, hsignup, huser, hdevice, hucanKey, hstoredUser, hstoredDevice⟩ := hsigned
  obtain ⟨signingKey, hlength, hid, hucanPubKey, hsealed, howner, hdeviceKey⟩ :=
    prepareSignup_account hencodings hprepare
  refine ⟨signingKey, ?_, hlength, ?_, ?_, hstoredUser, hstoredDevice, ?_, ?_⟩
  · rwa [huser]
  · rwa [huser]
  · rw [hucanKey, handleSignup_ucanKey hprepare hsignup, hsealed, huser]
    rfl
  · rwa [hdevice, huser]
  · rwa [hdevice]

section Parts

variable {libraries : Libraries} {domain : String} {now : Int} {party : Party}
variable {signingKey : Bytes}
variable (hencodings : LawfulEncodings libraries.ucan.encodings)
variable (haccount : Account libraries signingKey party)

variable {store : RepositoryContext}

include haccount in
theorem getUcanKey_run (hucanKey : store.ucanKey = party.store.ucanKey) :
    (query StoreRepo.getUcanKey).run store =
      (.ok (sealedTokenKey libraries party.user.publicKey signingKey), store) := by
  rw [haccount.ucanKey] at hucanKey
  simp [query, StoreRepo.getUcanKey, hucanKey, firstOrNotFound, Except.mapError]

include hencodings haccount

theorem signUcanPubKey_run (hucanKey : store.ucanKey = party.store.ucanKey) :
    (signUcanPubKey (party.env libraries domain now).toServiceEnv).run store =
      (.ok (.signed party.user.publicKey party.user.ucanPubKey (now + signatureLifetime)),
        store) := by
  have hkey : getPublicUcanKey libraries (some party.user.publicKey)
      (sealedTokenKey libraries party.user.publicKey signingKey) =
        .ok party.user.ucanPubKey := by
    rw [getPublicUcanKey_sealed hencodings haccount.length, haccount.ucanPubKey]
  have hsign : signClearTextMessage (some party.user.publicKey) now party.user.ucanPubKey =
      .ok (.signed party.user.publicKey party.user.ucanPubKey (now + signatureLifetime)) :=
    rfl
  simp [signUcanPubKey, getUcanPubKey, getUcanKey_run haccount hucanKey, liftCrypto,
    Party.env, hkey, hsign, Except.mapError]

theorem issueConnectUcanToken_run {audienceKey : Bytes} {ucan : Ucan} {token : String}
    (hucanKey : store.ucanKey = party.store.ucanKey)
    (hverifies : Verifies libraries.ucan (connectRequest libraries.ucan now signingKey
      domain party.user.id audienceKey) ucan token) :
    (issueConnectUcanToken (party.env libraries domain now).toServiceEnv
      (libraries.ucan.encodings.base64Encode audienceKey)).run store =
        (.ok token, store) := by
  simp [issueConnectUcanToken, getUcanKey_run haccount hucanKey, Except.mapError,
    liftCrypto, Party.env,
    issueConnectAndShareUserToken_sealed hencodings haccount.length haccount.id hverifies]

end Parts

theorem verifyClearTextMessage_prompt {publicKey message : String} {sent handled : Int}
    (hprompt : Prompt sent handled) :
    verifyClearTextMessage handled publicKey
      (.signed publicKey message (sent + signatureLifetime)) = .ok message := by
  simp [verifyClearTextMessage, hprompt.2]

theorem getMyUserDevices_run (userId : String) (store : RepositoryContext) :
    ∃ devices, (getMyUserDevices userId).run store = (.ok devices, store) ∧
      devices.Perm (UserRepo.devicesOf store userId) :=
  ⟨_, rfl, List.mergeSort_perm _ _⟩

theorem userOfRemoteDevice_run {session : Session} {row : User}
    (hrow : UserRepo.getUserByDeviceId session.connection.remoteDeviceId session.repo =
      .ok row) : userOfRemoteDevice.run session = (.ok row, session) := by
  simp [userOfRemoteDevice, queryRepo, hrow, Except.mapError]

def Session.sending (session : Session) (payload : HandshakeMessage) : Session :=
  { session with
    connection := { session.connection with
      sent := session.connection.sent ++ [.handshake payload] } }

@[simp] theorem lastHandshake_sending (session : Session) (payload : HandshakeMessage) :
    lastHandshake (session.sending payload) = some payload := by
  simp [lastHandshake, Session.sending]

theorem run_sendMessage (payload : HandshakeMessage) (session : Session) :
    (sendMessage (.handshake payload)).run session =
      (.ok .unit, session.sending payload) := rfl

section Initiate

variable {libraries : Libraries} (domain : String) (now : Int) {party : Party}
variable {signingKey : Bytes} (session : Session) {row : User}
variable (hencodings : LawfulEncodings libraries.ucan.encodings)
variable (haccount : Account libraries signingKey party)
variable (hucanKey : session.repo.ucanKey = party.store.ucanKey)
variable (hrow : UserRepo.getUserByDeviceId session.connection.remoteDeviceId session.repo =
  .ok row)

include hencodings haccount hucanKey hrow

theorem initiateHandshake_run_first {audienceKey : Bytes} {ucan : Ucan} {token : String}
    (hfirst : row.firstSync = false)
    (hkey : row.ucanPubKey = libraries.ucan.encodings.base64Encode audienceKey)
    (hverifies : Verifies libraries.ucan (connectRequest libraries.ucan now signingKey
      domain party.user.id audienceKey) ucan token) (connectionType : ConnectionType) :
    ∃ devices, devices.Perm (UserRepo.devicesOf session.repo party.user.id) ∧
      (initiateHandshake (party.env libraries domain now) connectionType party.user
        party.device).run session =
        (.ok .unit, session.sending (.handshakeFirstConnectRequest
          { devices, issuedUcan := token
            signedUcanPub := .signed party.user.publicKey party.user.ucanPubKey
              (now + signatureLifetime)
            oneTimeUcan := row.ucanToken, peerDevice := party.device
            peerUser := party.user, connectionType })) := by
  obtain ⟨devices, hdevices, hperm⟩ := getMyUserDevices_run party.user.id session.repo
  refine ⟨devices, hperm, ?_⟩
  simp [initiateHandshake, userOfRemoteDevice_run hrow, hfirst, hkey, hdevices,
    signUcanPubKey_run hencodings haccount hucanKey, run_sendMessage,
    issueConnectUcanToken_run hencodings haccount hucanKey hverifies, Except.mapError]

theorem initiateHandshake_run_known (hmet : row.firstSync = true)
    (connectionType : ConnectionType) :
    ∃ kind, (initiateHandshake (party.env libraries domain now) connectionType party.user
        party.device).run session =
      (.ok .unit, { session with connection := { session.connection with
        connectionType := kind } }.sending (.handshakeExchange
          { ucanToken := row.ucanToken, peerUser := party.user
            peerDevice := party.device, connectionType
            signedUcanPub := .signed party.user.publicKey party.user.ucanPubKey
              (now + signatureLifetime) })) := by
  refine ⟨some .user, ?_⟩
  simp [initiateHandshake, userOfRemoteDevice_run hrow, hmet,
    signUcanPubKey_run hencodings haccount hucanKey, run_sendMessage, setConnectionType,
    Except.mapError, Session.sending]

end Initiate

theorem getUserManifest_run (peerUserId currentUserId : String) (store : RepositoryContext) :
    ∃ manifest, (getUserManifest peerUserId currentUserId).run store = (.ok manifest, store) :=
  ⟨_, rfl⟩

theorem startUserNetworkSync_run (env : NetworkEnv) {user : User}
    (huser : env.currentUser = some user) (session : Session) :
    ∃ connection, (startUserNetworkSync env).run session =
        (.ok .unit, { session with connection }) ∧
      connection.handshakeComplete = session.connection.handshakeComplete := by
  cases hinitiator : session.connection.isInitiator with
  | false =>
      exact ⟨session.connection, by simp [startUserNetworkSync, hinitiator], rfl⟩
  | true =>
      obtain ⟨manifest, hmanifest⟩ :=
        getUserManifest_run session.connection.user.id user.id session.repo
      refine ⟨{ session.connection with
        sent := session.connection.sent ++ [.userManifestPayload (.request manifest)] },
        ?_, rfl⟩
      simp [startUserNetworkSync, hinitiator, getPeerUser, getLocalUser, huser,
        callServiceAs, run_onRepo, hmanifest, Except.mapError, sendMessage,
        Program.run_mapError]

section Local

variable {libraries : Libraries} {domain : String} {now : Int} {party : Party}
variable {session : Session}

theorem getLocalUser_run :
    (getLocalUser (party.env libraries domain now)).run session = (.ok party.user, session) :=
  rfl

theorem getLocalDevice_run :
    (getLocalDevice (party.env libraries domain now)).run session =
      (.ok party.device, session) := rfl

theorem verifySignedKey_run {sent : Int} {signed : SignedText}
    {publicKey peerUcanPub : String} (hprompt : Prompt sent now)
    (hsigned : signed = .signed publicKey peerUcanPub (sent + signatureLifetime)) :
    (callCrypto (verifyClearTextMessage (party.env libraries domain now).now publicKey
      signed)).run session = (.ok peerUcanPub, session) := by
  simp [callCrypto, Party.env, hsigned, verifyClearTextMessage_prompt hprompt,
    Except.mapError]

theorem requireConnectToken_run {peerUser : User} {token peerUcanPub : String}
    (hvalid : validateConnectToken libraries.ucan now token peerUcanPub
      party.user.ucanPubKey party.user.id domain = .ok true) :
    (requireConnectToken (party.env libraries domain now) party.user peerUser token
      peerUcanPub).run session = (.ok .unit, session) := by
  simp [requireConnectToken, callCrypto, Party.env, hvalid, liftUcan, Except.mapError]

end Local

theorem updateRepo_run {write : RepositoryContext → Except RepositoryError RepositoryContext}
    {session : Session} {repo : RepositoryContext} (hwrite : write session.repo = .ok repo) :
    (updateRepo write).run session = (.ok .unit, { session with repo }) := by
  simp [updateRepo, Program.run_write, hwrite]

section Handle

variable {libraries : Libraries} {domain : String} {sent now : Int} {party : Party}
variable {signingKey : Bytes} (session : Session)

theorem processFirstUserConnectionRequest_run (payload : FirstConnectRequest)
    (hencodings : LawfulEncodings libraries.ucan.encodings)
    (haccount : Account libraries signingKey party)
    (hucanKey : session.repo.ucanKey = party.store.ucanKey)
    {audienceKey : Bytes} {ucan : Ucan} {token : String}
    {repo : RepositoryContext} (hprompt : Prompt sent now)
    (hsigned : payload.signedUcanPub = .signed payload.peerUser.publicKey
      (libraries.ucan.encodings.base64Encode audienceKey) (sent + signatureLifetime))
    (hvalid : validateConnectToken libraries.ucan now payload.oneTimeUcan
      (libraries.ucan.encodings.base64Encode audienceKey) party.user.ucanPubKey
      party.user.id domain = .ok true)
    (hverifies : Verifies libraries.ucan (connectRequest libraries.ucan now signingKey
      domain party.user.id audienceKey) ucan token)
    (hadd : UserRepo.addUsersWithDevicesBulk
      [{ user := firstConnected payload.peerUser payload.issuedUcan
          (libraries.ucan.encodings.base64Encode audienceKey)
         devices := payload.devices }] session.repo = .ok repo) :
    ∃ devices connection, devices.Perm (UserRepo.devicesOf repo party.user.id) ∧
      connection.handshakeComplete = true ∧
      (handleHandshakeMessage (party.env libraries domain now)
        (.handshakeFirstConnectRequest payload)).run session =
        (.ok .unit, Session.sending { repo, connection } (.handshakeFirstConnectResponse
          { peerUser := party.user, peerDevice := party.device, devices
            ucanToken := payload.issuedUcan, issuedUcan := token
            signedUcanPub := .signed party.user.publicKey party.user.ucanPubKey
              (now + signatureLifetime) })) := by
  obtain ⟨devices, hdevices, hperm⟩ := getMyUserDevices_run party.user.id repo
  refine ⟨devices, { session.connection with
    connectionType := some .user, user := payload.peerUser, device := payload.peerDevice
    handshakeComplete := true }, hperm, rfl, ?_⟩
  simp [handleHandshakeMessage, processFirstUserConnectionRequest, getLocalUser_run,
    getLocalDevice_run, verifySignedKey_run hprompt hsigned, requireConnectToken_run hvalid,
    signUcanPubKey_run hencodings haccount hucanKey,
    issueConnectUcanToken_run hencodings haccount hucanKey hverifies, setConnectionType,
    setPeerUserAndDevice, updateRepo_run, hadd, hdevices, setHandshakeComplete,
    run_sendMessage, Except.mapError]

variable (libraries domain party) in
theorem processFirstUserConnectionHandshakeResponse_run
    (payload : FirstConnectResponse) {peerUcanPub : String} {repo : RepositoryContext}
    (hprompt : Prompt sent now)
    (hsigned : payload.signedUcanPub = .signed payload.peerUser.publicKey peerUcanPub
      (sent + signatureLifetime))
    (hvalid : validateConnectToken libraries.ucan now payload.ucanToken peerUcanPub
      party.user.ucanPubKey party.user.id domain = .ok true)
    (hadd : UserRepo.addUsersWithDevicesBulk
      [{ user := firstConnected payload.peerUser payload.issuedUcan peerUcanPub
         devices := payload.devices }] session.repo = .ok repo) :
    ∃ connection, connection.handshakeComplete = true ∧
      (handleHandshakeMessage (party.env libraries domain now)
        (.handshakeFirstConnectResponse payload)).run session =
          (.ok .unit, { repo, connection }) := by
  obtain ⟨connection, hstart, hcomplete⟩ := startUserNetworkSync_run
    (party.env libraries domain now) rfl
    { repo, connection := { session.connection with
        user := payload.peerUser, device := payload.peerDevice, handshakeComplete := true } }
  refine ⟨connection, hcomplete, ?_⟩
  simp [handleHandshakeMessage, processFirstUserConnectionHandshakeResponse, getLocalUser_run,
    verifySignedKey_run hprompt hsigned, requireConnectToken_run hvalid, setPeerUserAndDevice, setHandshakeComplete, updateRepo_run, hadd,
    hstart]

section Exchange

variable (payload : UcanAndUserExchange) {peerUcanPub : String}
variable (hprompt : Prompt sent now)
variable (hsigned : payload.signedUcanPub = .signed payload.peerUser.publicKey peerUcanPub
  (sent + signatureLifetime))
variable (hvalid : validateConnectToken libraries.ucan now payload.ucanToken peerUcanPub
  party.user.ucanPubKey party.user.id domain = .ok true)

include hprompt hsigned hvalid

theorem processExchangeMessage_run_responder
    (hencodings : LawfulEncodings libraries.ucan.encodings)
    (haccount : Account libraries signingKey party)
    (hucanKey : session.repo.ucanKey = party.store.ucanKey)
    (hresponder : session.connection.isInitiator = false) {row : User}
    (hrow : UserRepo.getUserByDeviceId session.connection.remoteDeviceId session.repo =
      .ok row) :
    ∃ answered, (handleHandshakeMessage (party.env libraries domain now)
        (.handshakeExchange payload)).run session = (.ok .unit, answered) ∧
      lastHandshake answered = some (.handshakeExchange
        { signedUcanPub := .signed party.user.publicKey party.user.ucanPubKey
            (now + signatureLifetime)
          peerUser := party.user, peerDevice := party.device
          ucanToken := row.ucanToken, connectionType := payload.connectionType }) := by
  have hremote : ∀ state : Session, state.repo = session.repo →
      state.connection.remoteDeviceId = session.connection.remoteDeviceId →
        userOfRemoteDevice.run state = (.ok row, state) := by
    intro state hrepo hid
    exact userOfRemoteDevice_run (by rwa [hid, hrepo])
  refine ⟨Session.sending { session with connection := { session.connection with
    connectionType := some .user, user := payload.peerUser, device := payload.peerDevice
    handshakeComplete := true } } _, ?_, lastHandshake_sending _ _⟩
  simp [handleHandshakeMessage, processExchangeMessage, getLocalUser_run, getLocalDevice_run,
    verifySignedKey_run hprompt hsigned, requireConnectToken_run hvalid, setPeerUserAndDevice, hresponder, hremote, setHandshakeComplete,
    signUcanPubKey_run hencodings haccount hucanKey, run_sendMessage, setConnectionType,
    Except.mapError, Session.sending]

theorem processExchangeMessage_run_initiator
    (hinitiator : session.connection.isInitiator = true) :
    ∃ completed, (handleHandshakeMessage (party.env libraries domain now)
      (.handshakeExchange payload)).run session = (.ok .unit, completed) := by
  obtain ⟨connection, hstart, -⟩ := startUserNetworkSync_run
    (party.env libraries domain now) rfl
    { session with connection := { session.connection with
        isInitiator := true, user := payload.peerUser, device := payload.peerDevice
        handshakeComplete := true } }
  refine ⟨{ session with connection }, ?_⟩
  simp [handleHandshakeMessage, processExchangeMessage, getLocalUser_run, getLocalDevice_run,
    verifySignedKey_run hprompt hsigned, requireConnectToken_run hvalid, setPeerUserAndDevice, hinitiator, setHandshakeComplete, hstart]

end Exchange

end Handle

theorem addKnownUser_run {libraries : Libraries} (domain : String) (now : Int)
    {a b : Party} {token cid : String} (ucanPubKey : String)
    (hid : getKeyId libraries a.user.publicKey = .ok a.user.id)
    (hcid : getUcanCid libraries.ucan token = .ok cid)
    (husers : ∀ known ∈ b.store.users,
      known.id ≠ a.user.id ∧ known.username ≠ a.user.username)
    (hdevices : ∀ known ∈ b.store.devices,
      known.id ≠ a.device.id ∧ known.deviceKey ≠ a.device.id) :
    ∃ row device entered, (addKnownUser (b.env libraries domain now).toServiceEnv
        a.user.username a.user.publicKey a.device.id token ucanPubKey).run b.store =
          (.ok (row, device), entered) ∧
      entered = { b.store with
        users := b.store.users ++ [row]
        devices := extend Device.id [device] b.store.devices } ∧
      row.id = a.user.id ∧ row.firstSync = false ∧ row.ucanToken = token ∧
        row.ucanPubKey = ucanPubKey ∧ device.id = a.device.id ∧
          device.deviceKey = a.device.id ∧ device.userId = a.user.id := by
  have hadd : ∀ (row : User) (device : Device), row.id = a.user.id →
      row.username = a.user.username → device.id = a.device.id →
        device.deviceKey = a.device.id → device.userId = row.id →
          UserRepo.addUsersWithDevicesBulk [{ user := row, devices := [device] }] b.store =
            .ok { b.store with
              users := b.store.users ++ [row]
              devices := extend Device.id [device] b.store.devices } := by
    intro row device hrow hname hdevice hkey howner
    refine addUsersWithDevicesBulk_stranger ⟨by simp, by simp⟩ ?_ ?_ ?_
    · intro added hadded hfree
      obtain rfl : added = device := by simpa using hadded
      refine ⟨?_, howner⟩
      simpa [hkey] using fun known hknown => (hdevices known hknown).2
    · exact fun known hknown => hrow ▸ (husers known hknown).1
    · exact fun known hknown => hname ▸ (husers known hknown).2
  refine ⟨{ id := a.user.id, username := a.user.username, publicKey := a.user.publicKey
            createdAt := now, ucanToken := token, ucanPubKey, ucanCid := cid
            signature := libraries.pgp.detachedSignature b.user.publicKey a.user.publicKey
            firstSync := false, updatedAt := now, owner := false, deleted := false
            deletedAt := none },
    { id := a.device.id, deviceKey := a.device.id, userId := a.user.id, createdAt := now
      updatedAt := now, lastSyncedAt := none }, _, ?_, rfl, rfl, rfl, rfl, rfl, rfl, rfl, rfl⟩
  have hsignature : signAndHashMessage libraries (some b.user.publicKey) a.user.publicKey =
      .ok (libraries.pgp.detachedSignature b.user.publicKey a.user.publicKey) := rfl
  simp [addKnownUser, liftCrypto, hid, Party.env, hsignature, liftUcan, hcid,
    Except.mapError, update, Program.run_write, hadd]

end Osvauld.Network
