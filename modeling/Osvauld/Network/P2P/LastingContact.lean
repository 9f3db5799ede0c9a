import Osvauld.Network.P2P.FirstContact

namespace Osvauld.Network

open Osvauld.Core CryptoUtils Data Data.KeyedInserts Persistance Services

/-! What two devices keep of their first contact, and what it is good for later. -/

section Contact

variable {libraries : Libraries} {domain : String} {a b : Party} {keyA keyB : Bytes}

section Calls

variable {connectionType : ConnectionType} {aConnection bConnection : PeerConnection}

theorem firstContact_eq_some {times : ContactTimes} {encryptedKey : PgpText}
    {oneTimeToken ucanPubKey : String} {entered : User × Device} {bStore : RepositoryContext}
    {bAsking aDone bDone : Session} {request : FirstConnectRequest}
    {response : FirstConnectResponse}
    (hucanKey : a.store.ucanKey = some encryptedKey)
    (hgenerated : generateOneTimeUserConnectToken libraries (some a.user.publicKey)
      times.generated encryptedKey domain = .ok (oneTimeToken, ucanPubKey))
    (hadded : (addKnownUser (b.env libraries domain times.added).toServiceEnv
      a.user.username a.user.publicKey a.device.id oneTimeToken ucanPubKey).run b.store =
        (.ok entered, bStore))
    (hasking : (initiateHandshake (b.env libraries domain times.asked) connectionType b.user
      b.device).run { repo := bStore, connection := bConnection } = (.ok .unit, bAsking))
    (hrequest : lastHandshake bAsking = some (.handshakeFirstConnectRequest request))
    (hanswer : (handleHandshakeMessage (a.env libraries domain times.answered)
      (.handshakeFirstConnectRequest request)).run
        { repo := a.store, connection := aConnection } = (.ok .unit, aDone))
    (hresponse : lastHandshake aDone = some (.handshakeFirstConnectResponse response))
    (hcomplete : (handleHandshakeMessage (b.env libraries domain times.completed)
      (.handshakeFirstConnectResponse response)).run bAsking = (.ok .unit, bDone)) :
    firstContact libraries domain connectionType times a b aConnection bConnection =
      some (aDone, bDone) := by
  simp [firstContact, takes, processMessage, succeeded, hucanKey, hgenerated, Except.toOption,
    hadded, hasking, hrequest, hanswer, hresponse, hcomplete]

theorem exchange_eq_some {times : ExchangeTimes} {asking answered completed : Session}
    {request response : UcanAndUserExchange}
    (hasking : (initiateHandshake (a.env libraries domain times.asked) connectionType a.user
      a.device).run { repo := a.store, connection := aConnection } = (.ok .unit, asking))
    (hrequest : lastHandshake asking = some (.handshakeExchange request))
    (hanswer : (handleHandshakeMessage (b.env libraries domain times.answered)
      (.handshakeExchange request)).run
        { repo := b.store, connection := bConnection } = (.ok .unit, answered))
    (hresponse : lastHandshake answered = some (.handshakeExchange response))
    (hcomplete : (handleHandshakeMessage (a.env libraries domain times.completed)
      (.handshakeExchange response)).run asking = (.ok .unit, completed)) :
    exchange libraries domain connectionType times a b aConnection bConnection =
      some (completed, answered) := by
  simp [exchange, takes, processMessage, succeeded, hasking, hrequest, hanswer, hresponse,
    hcomplete]

end Calls

section Later

variable {connectionType : ConnectionType} {times : ExchangeTimes}
variable {iConnection rConnection : PeerConnection} {iStore rStore : RepositoryContext}
variable {rowA rowB : User}

theorem exchange_isSome (hencodings : LawfulEncodings libraries.ucan.encodings)
    (haccountA : Account libraries keyA a) (haccountB : Account libraries keyB b)
    (hucanKeyA : iStore.ucanKey = a.store.ucanKey)
    (hucanKeyB : rStore.ucanKey = b.store.ucanKey)
    (hanswered : Prompt times.asked times.answered)
    (hcompleted : Prompt times.answered times.completed)
    (hinitiator : iConnection.isInitiator = true)
    (hresponder : rConnection.isInitiator = false)
    (hrowB : UserRepo.getUserByDeviceId iConnection.remoteDeviceId iStore = .ok rowB)
    (hmet : rowB.firstSync = true)
    (hvalidB : validateConnectToken libraries.ucan times.answered rowB.ucanToken
      a.user.ucanPubKey b.user.ucanPubKey b.user.id domain = .ok true)
    (hrowA : UserRepo.getUserByDeviceId rConnection.remoteDeviceId rStore = .ok rowA)
    (hvalidA : validateConnectToken libraries.ucan times.completed rowA.ucanToken
      b.user.ucanPubKey a.user.ucanPubKey a.user.id domain = .ok true) :
    (exchange libraries domain connectionType times { a with store := iStore }
      { b with store := rStore } iConnection rConnection).isSome = true := by
  obtain ⟨kind, hasking⟩ := initiateHandshake_run_known domain times.asked
    { repo := iStore, connection := iConnection } hencodings haccountA hucanKeyA hrowB hmet
    connectionType
  let request : UcanAndUserExchange :=
    { ucanToken := rowB.ucanToken, peerUser := a.user, peerDevice := a.device
      connectionType
      signedUcanPub := .signed a.user.publicKey a.user.ucanPubKey
        (times.asked + signatureLifetime) }
  obtain ⟨answered, hanswer, hlast⟩ := processExchangeMessage_run_responder
    { repo := rStore, connection := rConnection } request hanswered rfl hvalidB hencodings haccountB hucanKeyB hresponder hrowA
  let asking : Session :=
    { repo := iStore, connection := { iConnection with connectionType := kind } }
  obtain ⟨completed, hcomplete⟩ := processExchangeMessage_run_initiator
    (asking.sending (.handshakeExchange request))
    { signedUcanPub := .signed b.user.publicKey b.user.ucanPubKey
        (times.answered + signatureLifetime)
      peerUser := b.user, peerDevice := b.device, ucanToken := rowA.ucanToken
      connectionType } hcompleted rfl hvalidA hinitiator
  have heq : exchange libraries domain connectionType times { a with store := iStore }
      { b with store := rStore } iConnection rConnection = some (completed, answered) :=
    exchange_eq_some hasking (lastHandshake_sending _ _) hanswer hlast hcomplete
  rw [heq]
  rfl

end Later

structure Strangers (a b : Party) : Prop where
  keptA : WellKeptDevices a.store.devices
  keptB : WellKeptDevices b.store.devices
  unknownA : Unknown a b.store
  unknownB : Unknown b a.store

structure Issues (libraries : Libraries) (domain : String) (times : ContactTimes)
    (a b : Party) (keyA keyB : Bytes) : Prop where
  oneTime : ∃ ucan token, Verifies libraries.ucan
    (oneTimeRequest libraries.ucan times.generated keyA domain a.user.id) ucan token
  asked : ∃ ucan token, Verifies libraries.ucan
    (connectRequest libraries.ucan times.asked keyB domain b.user.id
      (libraries.ucan.verifyingKey keyA)) ucan token
  answered : ∃ ucan token, Verifies libraries.ucan
    (connectRequest libraries.ucan times.answered keyA domain a.user.id
      (libraries.ucan.verifyingKey keyB)) ucan token

structure Met (libraries : Libraries) (domain : String) (times : ContactTimes)
    (a b : Party) (aDone bDone : Session) : Prop where
  completeA : aDone.connection.handshakeComplete = true
  completeB : bDone.connection.handshakeComplete = true
  rowOfB : Befriended libraries domain times.asked a b aDone.repo
  rowOfA : Befriended libraries domain times.answered b a bDone.repo
  ucanKeyA : aDone.repo.ucanKey = a.store.ucanKey
  ucanKeyB : bDone.repo.ucanKey = b.store.ucanKey

structure Entered (a b : Party) (row : User) (store : RepositoryContext) : Prop where
  ucanKey : store.ucanKey = b.store.ucanKey
  rowById : UserRepo.getUserById a.user.id store = .ok row
  device : DeviceOf a.device.id a.user.id store.devices
  ownDevices : UserRepo.devicesOf store b.user.id = UserRepo.devicesOf b.store b.user.id
  admissible : Admissible a.user.id (UserRepo.devicesOf a.store a.user.id) store.devices

section Meet

variable (hstrangers : Strangers a b)
variable (haccountA : Account libraries keyA a) (haccountB : Account libraries keyB b)

include haccountA in
theorem Account.device_mem : a.device ∈ UserRepo.devicesOf a.store a.user.id :=
  List.mem_filter.mpr ⟨haccountA.device, by simp [haccountA.deviceOwner]⟩

include hstrangers haccountA haccountB

theorem entered_of_addKnownUser {row : User} {device : Device} {store : RepositoryContext}
    (hstore : store = { b.store with
      users := b.store.users ++ [row]
      devices := extend Device.id [device] b.store.devices })
    (hrow : row.id = a.user.id) (hid : device.id = a.device.id)
    (hkey : device.deviceKey = a.device.id) (howner : device.userId = a.user.id) :
    Entered a b row store := by
  have hdevices : store.devices = extend Device.id [device] b.store.devices := by rw [hstore]
  have hunknown := hstrangers.unknownA.devices
  refine ⟨by rw [hstore], ?_, ?_, ?_, ?_⟩
  · rw [← hrow]
    exact getUserById_append (by rw [hstore]) fun known hknown =>
      hrow ▸ hstrangers.unknownA.id known hknown
  · rw [hdevices]
    refine DeviceOf.of_extend ⟨⟨device, by simp, hid⟩, ?_⟩ fun known hknown =>
      (hunknown a.device haccountA.device_mem known hknown).1
    intro other hother _
    rwa [List.mem_singleton.mp hother]
  · refine devicesOf_extend hdevices fun other hother => ?_
    rw [List.mem_singleton.mp hother, howner]
    exact (hstrangers.unknownA.id b.user haccountB.user).symm
  · intro other hother hfree
    refine ⟨fun hheld => ?_, by simpa using (List.mem_filter.mp hother).2⟩
    obtain ⟨known, hknown, hsame⟩ := List.mem_map.mp hheld
    rw [hdevices] at hknown
    rcases mem_extend.mp hknown with hold | ⟨hnew, hnewFree⟩
    · exact (hunknown other hother known hold).2 hsame
    -- The device of `a` that has been entered has the key of no other.
    obtain rfl := List.mem_singleton.mp hnew
    have heq : other = a.device := by
      refine hstrangers.keptA.eq_of_key (List.mem_filter.mp hother).1 haccountA.device ?_
      rw [← hsame, hkey, haccountA.deviceKey]
    rw [hdevices] at hfree
    exact hfree (mem_ids_extend.mpr (.inr (by simp [hid, heq])))

end Meet

section Meet

variable {connectionType : ConnectionType} {times : ContactTimes}
variable {aConnection bConnection : PeerConnection}
variable (hencodings : LawfulEncodings libraries.ucan.encodings)
variable (hkeys : ∀ signingKey : Bytes, signingKey.length = 32 →
  libraries.ucan.verifyingKey signingKey ≠ [])
variable (haccountA : Account libraries keyA a) (haccountB : Account libraries keyB b)
variable (hstrangers : Strangers a b)

section Told

variable {other : Party} {store : RepositoryContext} {devices : List Device}
variable (hunknown : Unknown other store)
variable (hdevices : devices.Perm (UserRepo.devicesOf other.store other.user.id))

include hunknown hdevices

theorem Unknown.admissible : Admissible other.user.id devices store.devices := by
  intro device hdevice _
  have hown := hdevices.mem_iff.mp hdevice
  refine ⟨?_, by simpa using (List.mem_filter.mp hown).2⟩
  simpa using fun known hknown => (hunknown.devices device hown known hknown).2

theorem Unknown.stored {signingKey : Bytes} (haccount : Account libraries signingKey other)
    (row : User) {store' : RepositoryContext} (hrow : row.id = other.user.id)
    (hstore : store' = { store with
      users := store.users ++ [row]
      devices := extend Device.id devices store.devices }) :
    UserRepo.getUserById other.user.id store' = .ok row ∧
      UserRepo.getUserByDeviceId other.device.id store' = .ok row := by
  have hbyId : UserRepo.getUserById other.user.id store' = .ok row := by
    rw [← hrow]
    exact getUserById_append (by rw [hstore]) fun known hknown =>
      hrow ▸ hunknown.id known hknown
  have hdevice : DeviceOf other.device.id other.user.id store'.devices := by
    rw [hstore]
    refine DeviceOf.of_extend ⟨⟨other.device, hdevices.mem_iff.mpr haccount.device_mem, rfl⟩,
      fun device hdevice _ => ?_⟩ fun known hknown =>
        (hunknown.devices other.device haccount.device_mem known hknown).1
    simpa using (List.mem_filter.mp (hdevices.mem_iff.mp hdevice)).2
  exact ⟨hbyId, hdevice.getUserByDeviceId hbyId⟩

end Told

theorem Entered.completed {row : User} {store store' : RepositoryContext}
    (hentry : Entered a b row store) (devices : List Device) (received : User)
    (hreceived : received.id = a.user.id)
    (hstore : store' = { store with
      users := store.users.map fun known =>
        if known.id = received.id then UserRepo.overwriteKnown known received else known
      devices := extend Device.id devices store.devices }) :
    UserRepo.getUserById a.user.id store' = .ok (UserRepo.overwriteKnown row received) ∧
      UserRepo.getUserByDeviceId a.device.id store' =
        .ok (UserRepo.overwriteKnown row received) := by
  have hbyId : UserRepo.getUserById a.user.id store' =
      .ok (UserRepo.overwriteKnown row received) := by
    rw [← hreceived]
    exact getUserById_overwritten (by rw [hstore]) (hreceived ▸ hentry.rowById)
  have hdevice : DeviceOf a.device.id a.user.id store'.devices := by
    rw [hstore]
    exact hentry.device.extend
  exact ⟨hbyId, hdevice.getUserByDeviceId hbyId⟩

theorem wellKept_of_perm {devices : List Device} {store : RepositoryContext} {userId : String}
    (hkept : WellKeptDevices store.devices)
    (hdevices : devices.Perm (UserRepo.devicesOf store userId)) : WellKeptDevices devices :=
  have hown := devicesOf_wellKept hkept userId
  ⟨(hdevices.map _).nodup_iff.mpr hown.ids, (hdevices.map _).nodup_iff.mpr hown.keys⟩

include hencodings hkeys haccountA haccountB hstrangers

theorem firstContact_met (hissues : Issues libraries domain times a b keyA keyB)
    (htimes : times.InTime) (hremote : bConnection.remoteDeviceId = a.device.id) :
    ∃ aDone bDone, firstContact libraries domain connectionType times a b aConnection
        bConnection = some (aDone, bDone) ∧ Met libraries domain times a b aDone bDone := by
  obtain ⟨oneTimeUcan, oneTimeToken, honeTime⟩ := hissues.oneTime
  obtain ⟨askedUcan, askedToken, hasked⟩ := hissues.asked
  obtain ⟨answeredUcan, answeredToken, hanswered⟩ := hissues.answered
  have hkeyA := hkeys keyA haccountA.length
  have hkeyB := hkeys keyB haccountB.length
  -- `b` enters `a`.
  have hgenerated := generateOneTimeUserConnectToken_sealed hencodings haccountA.length
    haccountA.id honeTime
  obtain ⟨cid, hcid⟩ := honeTime.getUcanCid
  obtain ⟨row, device, entered, hadded, hentered, hrowId, hfirst, htoken, hkey, hdeviceId,
    hdeviceKey, howner⟩ := addKnownUser_run domain times.added
      (ucanPubKeyOf libraries keyA) haccountA.id hcid
      (fun known hknown => ⟨hstrangers.unknownA.id known hknown,
        hstrangers.unknownA.username known hknown⟩)
      (fun known hknown => haccountA.deviceKey ▸
        hstrangers.unknownA.devices a.device haccountA.device_mem known hknown)
  have hentry := entered_of_addKnownUser hstrangers haccountA haccountB hentered hrowId
    hdeviceId hdeviceKey howner
  have hrow : UserRepo.getUserByDeviceId bConnection.remoteDeviceId entered = .ok row := by
    rw [hremote]
    exact hentry.device.getUserByDeviceId hentry.rowById
  -- It asks, with a token for the key of `a`.
  obtain ⟨bDevices, hbDevices, hasking⟩ := initiateHandshake_run_first domain times.asked
    { repo := entered, connection := bConnection } hencodings haccountB hentry.ucanKey hrow
    hfirst hkey hasked connectionType
  -- `a` takes the token that it has given out, and stores `b`.
  obtain ⟨request, hrequest⟩ : ∃ request : FirstConnectRequest, request =
    { devices := bDevices, issuedUcan := askedToken
      signedUcanPub := .signed b.user.publicKey b.user.ucanPubKey
        (times.asked + signatureLifetime)
      oneTimeUcan := row.ucanToken, peerDevice := b.device, peerUser := b.user
      connectionType } := ⟨_, rfl⟩
  rw [← hrequest] at hasking
  have hbDevices' := hentry.ownDevices ▸ hbDevices
  have haAdd : UserRepo.addUsersWithDevicesBulk
      [{ user := firstConnected b.user askedToken (ucanPubKeyOf libraries keyB)
         devices := bDevices }] a.store = _ :=
    addUsersWithDevicesBulk_stranger (wellKept_of_perm hstrangers.keptB hbDevices')
      (hstrangers.unknownB.admissible hbDevices') hstrangers.unknownB.id
      hstrangers.unknownB.username
  have haValid : validateConnectToken libraries.ucan times.answered oneTimeToken
      (ucanPubKeyOf libraries keyB) (ucanPubKeyOf libraries keyA) a.user.id domain =
        .ok true :=
    validateConnectToken_oneTime hencodings hkeyA honeTime htimes.oneTime.1 htimes.oneTime.2
  obtain ⟨aDevices, aConnection', haDevices, haComplete, hanswer⟩ :=
    processFirstUserConnectionRequest_run { repo := a.store, connection := aConnection }
      request hencodings haccountA rfl htimes.answered
      (by rw [hrequest, haccountB.ucanPubKey, ucanPubKeyOf])
      (by rw [hrequest, htoken, haccountA.ucanPubKey]; exact haValid) hanswered
      (by rw [hrequest]; exact haAdd)
  -- `b` takes the token that it has made, and completes its row of `a`.
  have haDevices' : aDevices.Perm (UserRepo.devicesOf a.store a.user.id) := by
    rw [devicesOf_extend rfl] at haDevices
    · exact haDevices
    intro device hdevice
    have howned := (List.mem_filter.mp (hbDevices'.mem_iff.mp hdevice)).2
    rw [of_decide_eq_true howned]
    exact hstrangers.unknownA.id b.user haccountB.user
  have hbAdd : UserRepo.addUsersWithDevicesBulk
      [{ user := firstConnected a.user answeredToken (ucanPubKeyOf libraries keyA)
         devices := aDevices }] entered = _ :=
    addUsersWithDevicesBulk_known (wellKept_of_perm hstrangers.keptA haDevices')
      (fun device hdevice => hentry.admissible device (haDevices'.mem_iff.mp hdevice))
      ⟨row, (find_eq_ok hentry.rowById).1, hrowId⟩
  have hbValid : ∀ now, times.asked ≤ now → now < times.asked + thirtyYears →
      validateConnectToken libraries.ucan now askedToken (ucanPubKeyOf libraries keyA)
        (ucanPubKeyOf libraries keyB) b.user.id domain = .ok true := fun now =>
    validateConnectToken_connect hencodings hkeyB hkeyA hasked
  have haValid' : ∀ now, times.answered ≤ now → now < times.answered + thirtyYears →
      validateConnectToken libraries.ucan now answeredToken (ucanPubKeyOf libraries keyB)
        (ucanPubKeyOf libraries keyA) a.user.id domain = .ok true := fun now =>
    validateConnectToken_connect hencodings hkeyA hkeyB hanswered
  have hinTime : times.asked ≤ times.completed ∧
      times.completed < times.asked + thirtyYears := by
    have hanswered := htimes.answered
    have hcompleted := htimes.completed
    unfold Prompt signatureLifetime at hanswered hcompleted
    unfold thirtyYears
    omega
  obtain ⟨bConnection', hbComplete, hcomplete⟩ :=
    processFirstUserConnectionHandshakeResponse_run libraries domain b
      (Session.sending { repo := entered, connection := bConnection }
        (.handshakeFirstConnectRequest request))
      { peerUser := a.user, peerDevice := a.device, devices := aDevices
        ucanToken := request.issuedUcan, issuedUcan := answeredToken
        signedUcanPub := .signed a.user.publicKey a.user.ucanPubKey
          (times.answered + signatureLifetime) }
      htimes.completed rfl
      (by
        rw [hrequest, haccountA.ucanPubKey, haccountB.ucanPubKey]
        exact hbValid _ hinTime.1 hinTime.2)
      (by
        rw [haccountA.ucanPubKey]
        exact hbAdd)
  have hrowOfB := hstrangers.unknownB.stored hbDevices' haccountB
    (firstConnected b.user askedToken (ucanPubKeyOf libraries keyB)) rfl rfl
  have hrowOfA := hentry.completed aDevices
    (firstConnected a.user answeredToken (ucanPubKeyOf libraries keyA)) rfl rfl
  rw [hrequest] at hcomplete hanswer
  refine ⟨_, _, firstContact_eq_some haccountA.ucanKey hgenerated hadded
    (hrequest ▸ hasking) (lastHandshake_sending _ _) hanswer (lastHandshake_sending _ _)
    hcomplete, haComplete, hbComplete,
    ⟨_, hrowOfB.1, hrowOfB.2, rfl, haccountB.ucanPubKey.symm, ?_⟩,
    ⟨_, hrowOfA.1, hrowOfA.2, rfl, haccountA.ucanPubKey.symm, ?_⟩,
    rfl, hentry.ucanKey⟩
  · rw [haccountA.ucanPubKey, haccountB.ucanPubKey]
    exact hbValid
  · rw [haccountA.ucanPubKey, haccountB.ucanPubKey]
    exact haValid'

end Meet

def Reconnects (libraries : Libraries) (domain : String) (since expiry : Int)
    (initiator responder : Party) : Prop :=
  ∀ (connectionType : ConnectionType) (times : ExchangeTimes)
    (iConnection rConnection : PeerConnection),
    since ≤ times.asked → Prompt times.asked times.answered →
      Prompt times.answered times.completed → times.completed < expiry →
        iConnection.isInitiator = true → rConnection.isInitiator = false →
          iConnection.remoteDeviceId = responder.device.id →
            rConnection.remoteDeviceId = initiator.device.id →
              (exchange libraries domain connectionType times initiator responder
                iConnection rConnection).isSome = true

theorem Befriended.of_keeps {since : Int} {store store' : RepositoryContext}
    (hbefriended : Befriended libraries domain since a b store)
    (hkeeps : KeepsContact b.device.id store store') :
    ∃ row, UserRepo.getUserByDeviceId b.device.id store' = .ok row ∧ row.firstSync = true ∧
      ∀ now, since ≤ now → now < since + thirtyYears →
        validateConnectToken libraries.ucan now row.ucanToken a.user.ucanPubKey
          b.user.ucanPubKey b.user.id domain = .ok true := by
  obtain ⟨row, -, hrow, hfirst, -, hvalid⟩ := hbefriended
  exact ⟨row, hkeeps.contact.trans hrow, hfirst, hvalid⟩

theorem reconnects_of_befriended {sinceA sinceB since expiry : Int}
    {aStore bStore aStore' bStore' : RepositoryContext}
    (hencodings : LawfulEncodings libraries.ucan.encodings)
    (haccountA : Account libraries keyA a) (haccountB : Account libraries keyB b)
    (hrowOfB : Befriended libraries domain sinceB a b aStore)
    (hrowOfA : Befriended libraries domain sinceA b a bStore)
    (hkeepsA : KeepsContact b.device.id aStore aStore')
    (hkeepsB : KeepsContact a.device.id bStore bStore')
    (hucanKeyA : aStore.ucanKey = a.store.ucanKey)
    (hucanKeyB : bStore.ucanKey = b.store.ucanKey)
    (hsince : sinceA ≤ since ∧ sinceB ≤ since)
    (hexpiry : expiry ≤ sinceA + thirtyYears ∧ expiry ≤ sinceB + thirtyYears) :
    Reconnects libraries domain since expiry { a with store := aStore' }
      { b with store := bStore' } := by
  intro connectionType times iConnection rConnection hasked hanswered hcompleted hlast
    hinitiator hresponder hremoteB hremoteA
  obtain ⟨rowB, hrowB, hmet, hvalidB⟩ := hrowOfB.of_keeps hkeepsA
  obtain ⟨rowA, hrowA, -, hvalidA⟩ := hrowOfA.of_keeps hkeepsB
  have hfrom := hanswered.1
  have hto := hcompleted.1
  exact exchange_isSome hencodings haccountA haccountB (hkeepsA.ucanKey.trans hucanKeyA)
    (hkeepsB.ucanKey.trans hucanKeyB) hanswered hcompleted hinitiator hresponder
    (hremoteB ▸ hrowB) hmet (hvalidB _ (by omega) (by omega)) (hremoteA ▸ hrowA)
    (hvalidA _ (by omega) (by omega))

/-- A first contact completes, and lasts as long as the tokens that it has issued. -/
theorem first_contact_lasts {Cert : Type} {certs : CertLibrary Cert} {times : ContactTimes}
    (connectionType : ConnectionType) (aConnection bConnection : PeerConnection)
    (hencodings : LawfulEncodings libraries.ucan.encodings)
    (hkeys : ∀ signingKey : Bytes, signingKey.length = 32 →
      libraries.ucan.verifyingKey signingKey ≠ [])
    (hsignedA : SignedUp libraries certs a) (hsignedB : SignedUp libraries certs b)
    (hstrangers : Strangers a b)
    (hissues : ∀ keyA keyB,
      a.store.ucanKey = some (sealedTokenKey libraries a.user.publicKey keyA) →
        b.store.ucanKey = some (sealedTokenKey libraries b.user.publicKey keyB) →
          Issues libraries domain times a b keyA keyB)
    (htimes : times.InTime) (hremote : bConnection.remoteDeviceId = a.device.id) :
    ∃ aDone bDone, firstContact libraries domain connectionType times a b aConnection
        bConnection = some (aDone, bDone) ∧
      Met libraries domain times a b aDone bDone ∧
        ∀ aStore bStore, KeepsContact b.device.id aDone.repo aStore →
          KeepsContact a.device.id bDone.repo bStore →
            Reconnects libraries domain times.completed (times.asked + thirtyYears)
                { a with store := aStore } { b with store := bStore } ∧
              Reconnects libraries domain times.completed (times.asked + thirtyYears)
                { b with store := bStore } { a with store := aStore } := by
  obtain ⟨keyA, haccountA⟩ := hsignedA.account hencodings
  obtain ⟨keyB, haccountB⟩ := hsignedB.account hencodings
  obtain ⟨aDone, bDone, hcontact, hmet⟩ := firstContact_met hencodings hkeys haccountA
    haccountB hstrangers (hissues keyA keyB haccountA.ucanKey haccountB.ucanKey) htimes hremote
  refine ⟨aDone, bDone, hcontact, hmet, fun aStore bStore hkeepsA hkeepsB => ?_⟩
  have hanswered := htimes.answered.1
  have hcompleted := htimes.completed.1
  constructor
  · exact reconnects_of_befriended hencodings haccountA haccountB hmet.rowOfB hmet.rowOfA
      hkeepsA hkeepsB hmet.ucanKeyA hmet.ucanKeyB (by omega) (by omega)
  · exact reconnects_of_befriended hencodings haccountB haccountA hmet.rowOfA hmet.rowOfB
      hkeepsB hkeepsA hmet.ucanKeyB hmet.ucanKeyA (by omega) (by omega)

end Contact

namespace TwoDevices

def signedUcan (request : UcanRequest) : Ucan :=
  { issuer := request.issuer, audience := request.audience
    capabilities := request.capabilities
    expiresAt := some (request.issuedAt + request.lifetimeSeconds)
    signedData := request.issuer ++ " for " ++ request.audience }

def expiringCrate (tokens : List Ucan) : UcanCrate :=
  { tryFrom := fun text =>
      match tokens.find? fun ucan => ucan.signedData = text with
      | some ucan => .ok ucan
      | none => .error "not a token"
    validate := fun ucan now =>
      if ucan.expiresAt.all fun expiry => now ≤ expiry then .ok () else .error "expired"
    toCid := fun ucan => .ok ucan.signedData
    build := fun _ => .ok ()
    sign := fun request => .ok (signedUcan request)
    encode := fun ucan => .ok ucan.signedData }

def tokenKey (name : String) : Bytes := List.replicate 32 ((textBytes name).headD 0)

def requests : List UcanRequest :=
  let libraries := tabledLibraries []
  [oneTimeRequest libraries 0 (tokenKey "alice") "livnote" "alice",
    connectRequest libraries 1 (tokenKey "bob") "livnote" "bob" (tokenKey "alice"),
    connectRequest libraries 2 (tokenKey "alice") "livnote" "alice" (tokenKey "bob")]

def libraries : Libraries :=
  let tabled := Libraries.tabled []
  { tabled with ucan := { tabled.ucan with
      crate := expiringCrate (requests.map signedUcan) } }

def certs : CertLibrary String :=
  { generateCertificate := fun _ username => .ok username
    getPublicKeyArmored := id
    armored := id
    fromStr := .ok
    deriveUcanKeysFromPgp := fun name => .ok (tokenKey name) }

def draw (name : String) : Draw :=
  { seed := 0, salt := ⟨textBytes "0123456789abcdef", rfl⟩, deviceKey := textBytes name
    folderId := "folder", folderShareRecordId := "record" }

def env : AuthEnv String := { libraries, certs, now := 0 }

def signedUp (name : String) : DeviceStore String :=
  ((handleSignup env (draw name) name "passphrase" "livnote").run {}).2

def user (name : String) : User :=
  .new 0 name name name "signature" true true "owner_token" "owner_cid"
    (bytesText (tokenKey name))

def device (name : String) : Device := .new 0 name name name

def party (name : String) : Party :=
  { user := user name, device := device name
    store :=
      { users := [user name], devices := [device name]
        ucanKey := some (sealedTokenKey libraries name (tokenKey name)) } }

def times : ContactTimes :=
  { generated := 0, added := 0, asked := 1, answered := 2, completed := 3 }

def connection (own other : String) (isInitiator : Bool) : PeerConnection :=
  .new "node" other isInitiator none none (party own).user (party own).device

def later : ExchangeTimes :=
  { asked := thirtyYears + 2, answered := thirtyYears + 3, completed := thirtyYears + 4 }

def contact : Option (Session × Session) :=
  firstContact libraries "livnote" .user times (party "alice") (party "bob")
    (connection "alice" "bob" false) (connection "bob" "alice" true)

theorem signedUp_alice : SignedUp libraries certs (party "alice") :=
  ⟨0, draw "alice", "alice", "passphrase", "livnote", {}, signedUp "alice", _, _, _, rfl, rfl,
    rfl, rfl, rfl, List.mem_singleton.mpr rfl, List.mem_singleton.mpr rfl⟩

theorem signedUp_bob : SignedUp libraries certs (party "bob") :=
  ⟨0, draw "bob", "bob", "passphrase", "livnote", {}, signedUp "bob", _, _, _, rfl, rfl,
    rfl, rfl, rfl, List.mem_singleton.mpr rfl, List.mem_singleton.mpr rfl⟩

theorem strangers : Strangers (party "alice") (party "bob") where
  keptA := ⟨by decide +kernel, by decide +kernel⟩
  keptB := ⟨by decide +kernel, by decide +kernel⟩
  unknownA := ⟨by decide +kernel, by decide +kernel, by decide +kernel⟩
  unknownB := ⟨by decide +kernel, by decide +kernel, by decide +kernel⟩

theorem verifies {request : UcanRequest}
    (hfound : (requests.map signedUcan).find? (fun ucan =>
      ucan.signedData = (signedUcan request).signedData) = some (signedUcan request)) :
    ∃ ucan token, Verifies libraries.ucan request ucan token := by
  refine ⟨signedUcan request, (signedUcan request).signedData, rfl, rfl, rfl, ?_,
    ⟨_, rfl⟩, rfl, rfl, rfl, fun now _ huntil => ?_⟩
  · change (match (requests.map signedUcan).find? _ with
      | some ucan => Except.ok ucan
      | none => .error "not a token") = _
    rw [hfound]
  · have hvalid : now ≤ request.issuedAt + request.lifetimeSeconds := by omega
    exact if_pos (by simpa [signedUcan] using hvalid)

def again (aDone bDone : Session) (times : ExchangeTimes) : Option (Session × Session) :=
  exchange libraries "livnote" .user times { party "bob" with store := bDone.repo }
    { party "alice" with store := aDone.repo } (connection "bob" "alice" true)
    (connection "alice" "bob" false)

theorem issues (keyA keyB : Bytes)
    (hkeyA : (party "alice").store.ucanKey =
      some (sealedTokenKey libraries (party "alice").user.publicKey keyA))
    (hkeyB : (party "bob").store.ucanKey =
      some (sealedTokenKey libraries (party "bob").user.publicKey keyB)) :
    Issues libraries "livnote" times (party "alice") (party "bob") keyA keyB := by
  have hkey : ∀ name signingKey, (some (sealedTokenKey libraries name (tokenKey name)) :
      Option PgpText) = some (sealedTokenKey libraries name signingKey) →
        signingKey = tokenKey name := by
    intro name signingKey heq
    have htext : bytesText (tokenKey name) = bytesText signingKey := by
      injection heq with heq
      injection heq
    have hbytes := (lawful_plainEncodings.base64 signingKey).symm.trans
      ((congrArg plainEncodings.base64Decode htext.symm).trans
        (lawful_plainEncodings.base64 (tokenKey name)))
    exact Except.ok.inj hbytes
  obtain rfl := hkey "alice" keyA hkeyA
  obtain rfl := hkey "bob" keyB hkeyB
  exact ⟨verifies rfl, verifies rfl, verifies rfl⟩

end TwoDevices

open TwoDevices in
theorem first_contact_lasts_twoDevices :
    ∃ aDone bDone, contact = some (aDone, bDone) ∧
      Met libraries "livnote" times (party "alice") (party "bob") aDone bDone := by
  obtain ⟨aDone, bDone, hcontact, hmet, -⟩ := first_contact_lasts .user
    (connection "alice" "bob" false) (connection "bob" "alice" true) lawful_plainEncodings
    (fun signingKey hlength hnil => by simp [show signingKey = [] from hnil] at hlength)
    signedUp_alice signedUp_bob strangers issues ⟨by decide, by unfold Prompt; decide, by unfold Prompt; decide⟩ rfl
  exact ⟨aDone, bDone, hcontact, hmet⟩

open TwoDevices in
/-- The tokens of the contact expire, and the rows stay as they are. -/
theorem not_accepted_forever :
    SignedUp libraries certs (party "alice") ∧ SignedUp libraries certs (party "bob") ∧
      Strangers (party "alice") (party "bob") ∧
        ∃ aDone bDone, contact = some (aDone, bDone) ∧ Prompt later.asked later.answered ∧
          Prompt later.answered later.completed ∧ again aDone bDone later = none := by
  have hnone : (contact.map fun done => (again done.1 done.2 later).isNone) = some true := by
    decide +kernel
  obtain ⟨⟨aDone, bDone⟩, hcontact, hagain⟩ := Option.map_eq_some_iff.mp hnone
  exact ⟨signedUp_alice, signedUp_bob, strangers, aDone, bDone, hcontact,
    by unfold Prompt; decide, by unfold Prompt; decide, Option.isNone_iff_eq_none.mp hagain⟩

end Osvauld.Network
