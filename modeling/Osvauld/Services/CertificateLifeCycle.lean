import Osvauld.Data.Run
import Osvauld.Services.AuthCalls

namespace Osvauld.Services

open Osvauld.Core CryptoUtils Data Persistance

/-! The certificate of a device over the calls of its user. -/

inductive AuthCall where
  | handleSignup (username passphrase domain : String)
  | importUser (certificate passphrase username peerDeviceId : String)
  | loadCertificate (passphrase : String)
  | exportCertificate (passphrase : String)
  | changePassphrase (oldPassword newPassword : String)
deriving DecidableEq, Repr

inductive AuthReply (Cert : Type) where
  | signedUp
  | imported (user : User) (certificate : Certificate Cert)
  | loaded (user : User) (device : Device)
  | exported (text : String)
  | changed (certificate : Certificate Cert)

structure AuthEvent where
  now : Int
  draw : Draw
  call : AuthCall

namespace AuthCall

def opensWith : AuthCall → Option String
  | loadCertificate passphrase => some passphrase
  | exportCertificate passphrase => some passphrase
  | changePassphrase oldPassword _ => some oldPassword
  | _ => none

def sealsWith : AuthCall → Option String
  | handleSignup _ passphrase _ => some passphrase
  | importUser _ passphrase _ _ => some passphrase
  | changePassphrase _ newPassword => some newPassword
  | _ => none

def Creates : AuthCall → Prop
  | handleSignup .. => True
  | importUser .. => True
  | _ => False

end AuthCall

section Sessions

variable {Cert : Type} (libraries : Libraries) (certs : CertLibrary Cert)

def AuthEvent.perform (event : AuthEvent) : AuthService Cert (AuthReply Cert) :=
  let env : AuthEnv Cert := { libraries, certs, now := event.now }
  match event.call with
  | .handleSignup username passphrase domain => do
      handleSignup env event.draw username passphrase domain
      return .signedUp
  | .importUser certificate passphrase username peerDeviceId => do
      let (user, primary) ←
        importUser env event.draw certificate passphrase username peerDeviceId
      return .imported user primary
  | .loadCertificate passphrase => do
      let (user, device) ← loadCertificate env passphrase
      return .loaded user device
  | .exportCertificate passphrase => do
      let text ← exportAccount env passphrase
      return .exported text
  | .changePassphrase oldPassword newPassword => do
      let certificate ← changePassphrase env oldPassword newPassword
      return .changed certificate

def AuthEvent.outcome (event : AuthEvent) (store : DeviceStore Cert) :
    Except AuthServiceError (AuthReply Cert) × DeviceStore Cert :=
  (event.perform libraries certs).run store

def AuthEvent.Succeeds (event : AuthEvent) (store : DeviceStore Cert) : Prop :=
  (event.outcome libraries certs store).1.isOk = true

structure AuthSession (Cert : Type) where
  store : DeviceStore Cert := {}
  passphrase : Option String := none

def proceed (event : AuthEvent) (session : AuthSession Cert) : AuthSession Cert :=
  match event.outcome libraries certs session.store with
  | (.ok _, store) =>
      { store, passphrase := event.call.sealsWith <|> session.passphrase }
  | (.error _, store) => { session with store }

def storedCert? (store : DeviceStore Cert) : Option Cert :=
  match store.item? "primary_key" with
  | some (.certificate cert _ _) => some cert
  | _ => none

def storedCertificate? (store : DeviceStore Cert) :
    Option (StoredText Cert) × Option (StoredText Cert) :=
  (store.item? "primary_key", store.item? "primary_key_salt")

structure CallRight (event : AuthEvent) (session : AuthSession Cert) : Prop where
  keyPair : ∀ cert, storedCert? session.store = some cert →
    storedCert? (event.outcome libraries certs session.store).2 = some cert
  opens : ∀ passphrase, event.call.opensWith = some passphrase →
    (event.Succeeds libraries certs session.store ↔
      session.passphrase = some passphrase)
  refuses : event.call.Creates → (storedCert? session.store).isSome →
    ¬ event.Succeeds libraries certs session.store
  kept : ¬ event.Succeeds libraries certs session.store →
    storedCertificate? (event.outcome libraries certs session.store).2 =
      storedCertificate? session.store
  exported : ∀ text, (event.outcome libraries certs session.store).1 =
      .ok (.exported text) →
    ∃ cert, storedCert? session.store = some cert ∧ text = certs.armored cert
  created : event.call.Creates → event.Succeeds libraries certs session.store →
    ∃ cert, storedCert? (event.outcome libraries certs session.store).2 = some cert ∧
      ∃ user ∈ (event.outcome libraries certs session.store).2.ctx.users,
        user.owner = true ∧ Certifies libraries certs cert user
  imported : ∀ cert passphrase username peerDeviceId,
    event.call = .importUser (certs.armored cert) passphrase username peerDeviceId →
      event.Succeeds libraries certs session.store →
        storedCert? (event.outcome libraries certs session.store).2 = some cert

section Calls

variable {libraries certs}

variable (libraries certs) in
def AuthSession.Sound (session : AuthSession Cert) : Prop :=
  match session.passphrase with
  | none => Unused session.store
  | some passphrase => ∃ cert, Opens libraries certs session.store cert passphrase

variable (libraries certs) in
def AccountText (text : String) : Prop :=
  ∃ cert, certs.fromStr text = .ok cert ∧
    (∃ userId, getKeyId libraries (certs.getPublicKeyArmored cert) = .ok userId) ∧
      ∃ signingKey, certs.deriveUcanKeysFromPgp cert = .ok signingKey

variable (libraries certs) in
inductive AuthEffect (event : AuthEvent) (session : AuthSession Cert) : Prop
  | failed (error : AuthServiceError)
      (outcome : event.outcome libraries certs session.store =
        (.error error, session.store))
      (opensWith : ∀ passphrase, event.call.opensWith = some passphrase →
        session.passphrase ≠ some passphrase)
  | signedUp (username passphrase domain : String) (cert : Cert)
      (store : DeviceStore Cert) (user : User) (free : session.passphrase = none)
      (call : event.call = .handleSignup username passphrase domain)
      (outcome : event.outcome libraries certs session.store = (.ok .signedUp, store))
      (opens : Opens libraries certs store cert passphrase)
      (stored : user ∈ store.ctx.users) (owner : user.owner = true)
      (certifies : Certifies libraries certs cert user)
  | imported (text passphrase username peerDeviceId : String) (cert : Cert)
      (reply : AuthReply Cert) (store : DeviceStore Cert)
      (free : session.passphrase = none)
      (call : event.call = .importUser text passphrase username peerDeviceId)
      (outcome : event.outcome libraries certs session.store = (.ok reply, store))
      (opens : Opens libraries certs store cert passphrase)
      (account : AccountText libraries certs text)
  | opened (passphrase : String) (cert : Cert) (reply : AuthReply Cert)
      (store : DeviceStore Cert) (held : session.passphrase = some passphrase)
      (opensWith : event.call.opensWith = some passphrase)
      (outcome : event.outcome libraries certs session.store = (.ok reply, store))
      (before : Opens libraries certs session.store cert passphrase)
      (opens : Opens libraries certs store cert
        (event.call.sealsWith.getD passphrase))
      (exported : ∀ text, reply = .exported text → text = certs.armored cert)

variable {event : AuthEvent} {session : AuthSession Cert}

theorem authEffect_of_unused (hfree : session.passphrase = none)
    (hunused : Unused session.store) : AuthEffect libraries certs event session := by
  obtain ⟨now, draw, call⟩ := event
  have hrefused : ∀ passphrase, call.opensWith = some passphrase →
      session.passphrase ≠ some passphrase := by
    intro passphrase _
    rw [hfree]
    exact Option.some_ne_none _ |>.symm
  cases call with
  | handleSignup username passphrase domain =>
      rcases @Unused.handleSignup_cases _ { libraries, certs, now } draw session.store
          username passphrase domain hunused with
        ⟨error, hrun⟩ | ⟨cert, store, hrun, hopens, user, hstored, howner, hcertifies⟩
      · refine .failed error ?_ hrefused
        rw [AuthEvent.outcome, AuthEvent.perform, Program.run_bind, hrun]
        rfl
      · refine .signedUp username passphrase domain cert store user hfree rfl ?_ hopens
          hstored howner hcertifies
        rw [AuthEvent.outcome, AuthEvent.perform, Program.run_bind, hrun]
        rfl
  | importUser text passphrase username peerDeviceId =>
      rcases @importUser_effect _ { libraries, certs, now } draw session.store
          username passphrase text peerDeviceId with
        ⟨error, hrun⟩ | ⟨cert, reply, store, hrun, hopens, hparse, hid, hderive⟩
      · refine .failed error ?_ hrefused
        rw [AuthEvent.outcome, AuthEvent.perform, Program.run_bind, hrun]
        rfl
      · refine .imported text passphrase username peerDeviceId cert
          (.imported reply.1 reply.2) store hfree rfl ?_ hopens
          ⟨cert, hparse, hid, hderive⟩
        rw [AuthEvent.outcome, AuthEvent.perform, Program.run_bind, hrun]
        rfl
  | loadCertificate passphrase =>
      refine .failed .certificateNotFound ?_ hrefused
      rw [AuthEvent.outcome, AuthEvent.perform, Program.run_bind,
        hunused.loadCertificate_run]
      rfl
  | exportCertificate passphrase =>
      refine .failed .certificateNotFound ?_ hrefused
      rw [AuthEvent.outcome, AuthEvent.perform, Program.run_bind,
        hunused.exportAccount_run]
      rfl
  | changePassphrase oldPassword newPassword =>
      refine .failed .certificateNotFound ?_ hrefused
      rw [AuthEvent.outcome, AuthEvent.perform, Program.run_bind,
        hunused.changePassphrase_run]
      rfl

theorem authEffect_of_opens {held : String} {cert : Cert}
    (hheld : session.passphrase = some held)
    (hopens : Opens libraries certs session.store cert held) :
    AuthEffect libraries certs event session := by
  obtain ⟨now, draw, call⟩ := event
  let env : AuthEnv Cert := { libraries, certs, now }
  have hother : ∀ given, given ≠ held → session.passphrase ≠ some given := by
    intro given hgiven
    rw [hheld]
    exact fun heq => hgiven (Option.some.inj heq).symm
  cases call with
  | handleSignup username passphrase domain =>
      obtain ⟨error, hrun⟩ := @Opens.refuses_signup _ libraries certs env draw
        session.store username held domain cert hopens passphrase
      refine .failed error ?_ fun _ hnone => nomatch hnone
      rw [AuthEvent.outcome, AuthEvent.perform, Program.run_bind, hrun]
      rfl
  | importUser text passphrase username peerDeviceId =>
      obtain ⟨error, hrun⟩ := @Opens.refuses_import _ libraries certs env draw
        session.store username held text peerDeviceId cert hopens passphrase
      refine .failed error ?_ fun _ hnone => nomatch hnone
      rw [AuthEvent.outcome, AuthEvent.perform, Program.run_bind, hrun]
      rfl
  | loadCertificate given =>
      by_cases hgiven : given = held
      · subst hgiven
        obtain ⟨user, device, hrun⟩ := @Opens.loadCertificate_run _ _ _ env cert hopens
        refine .opened given cert (.loaded user device) _ hheld rfl ?_ hopens
          (@Opens.load _ _ _ env cert hopens) fun _ hexported => nomatch hexported
        rw [AuthEvent.outcome, AuthEvent.perform, Program.run_bind, hrun]
        rfl
      · have hrun := @Opens.refuses_load _ _ _ env cert given hopens hgiven
        refine .failed .invalidPassphrase ?_ fun passphrase hsome => ?_
        · rw [AuthEvent.outcome, AuthEvent.perform, Program.run_bind, hrun]
          rfl
        · cases hsome
          exact hother given hgiven
  | exportCertificate given =>
      by_cases hgiven : given = held
      · subst hgiven
        have hrun := @Opens.exportAccount_run _ _ _ env cert hopens
        refine .opened given cert (.exported (certs.armored cert)) _ hheld rfl ?_ hopens
          hopens fun _ hexported => (AuthReply.exported.inj hexported).symm
        rw [AuthEvent.outcome, AuthEvent.perform, Program.run_bind, hrun]
        rfl
      · obtain ⟨error, hrun⟩ := @Opens.refuses_export _ _ _ env cert given hopens hgiven
        refine .failed error ?_ fun passphrase hsome => ?_
        · rw [AuthEvent.outcome, AuthEvent.perform, Program.run_bind, hrun]
          rfl
        · cases hsome
          exact hother given hgiven
  | changePassphrase given newPassword =>
      by_cases hgiven : given = held
      · subst hgiven
        obtain ⟨reply, changed, hrun, hchanged⟩ :=
          @Opens.changePassphrase_run _ _ _ env cert newPassword hopens
        refine .opened given cert (.changed reply) changed hheld rfl ?_ hopens hchanged
          fun _ hexported => nomatch hexported
        rw [AuthEvent.outcome, AuthEvent.perform, Program.run_bind, hrun]
        rfl
      · obtain ⟨error, hrun⟩ :=
          @Opens.refuses_change _ _ _ env cert newPassword given hopens hgiven
        refine .failed error ?_ fun passphrase hsome => ?_
        · rw [AuthEvent.outcome, AuthEvent.perform, Program.run_bind, hrun]
          rfl
        · cases hsome
          exact hother given hgiven

variable {store : DeviceStore Cert} {passphrase : String}

theorem AuthSession.Sound.of_opens {held : Option String}
    (hopens : ∃ cert, Opens libraries certs store cert passphrase) (hheld : held = some passphrase) :
    AuthSession.Sound libraries certs { store, passphrase := held } := by
  subst hheld
  exact hopens

theorem AuthSession.Sound.effect (hsound : session.Sound libraries certs) :
    AuthEffect libraries certs event session := by
  unfold AuthSession.Sound at hsound
  split at hsound
  · next hfree => exact authEffect_of_unused hfree hsound
  · next held hheld =>
      obtain ⟨cert, hopens⟩ := hsound
      exact authEffect_of_opens hheld hopens

theorem proceed_of_ok {reply : AuthReply Cert}
    (houtcome : event.outcome libraries certs session.store = (.ok reply, store)) :
    proceed libraries certs event session =
      { store, passphrase := event.call.sealsWith <|> session.passphrase } := by
  rw [proceed, houtcome]

theorem proceed_of_error {error : AuthServiceError}
    (houtcome : event.outcome libraries certs session.store = (.error error, store)) :
    proceed libraries certs event session = { session with store } := by
  rw [proceed, houtcome]

theorem AuthSession.Sound.proceed (hsound : session.Sound libraries certs) :
    (proceed libraries certs event session).Sound libraries certs := by
  have heffect : AuthEffect libraries certs event session := hsound.effect
  cases heffect with
  | failed error houtcome _ =>
      rw [proceed_of_error houtcome]
      exact hsound
  | signedUp username passphrase domain cert store user _ hcall houtcome hopens =>
      rw [proceed_of_ok houtcome, hcall]
      exact ⟨cert, hopens⟩
  | imported text passphrase username peerDeviceId cert reply store _ hcall houtcome
      hopens =>
      rw [proceed_of_ok houtcome, hcall]
      exact ⟨cert, hopens⟩
  | opened passphrase cert reply store hheld _ houtcome _ hopens =>
      rw [proceed_of_ok houtcome, hheld]
      refine Sound.of_opens ⟨cert, hopens⟩ ?_
      cases event.call.sealsWith <;> rfl

variable (libraries certs) in
/-- A certificate is brought in by signing up only: an import comes when there is an
account already, or with a text that no account can be made of. -/
def NoImport (event : AuthEvent) (session : AuthSession Cert) : Prop :=
  ∀ text passphrase username peerDeviceId,
    event.call = .importUser text passphrase username peerDeviceId →
      session.passphrase = none → ¬ AccountText libraries certs text

theorem storedCert?_of_opens {cert : Cert} (hopens : Opens libraries certs store cert passphrase) :
    storedCert? store = some cert := by
  obtain ⟨salt, hkey, _⟩ := hopens.sealed
  rw [storedCert?, hkey]

theorem storedCert?_of_unused (hunused : Unused store) : storedCert? store = none := by
  simp [storedCert?, DeviceStore.item?, hunused.items]

theorem callRight_of_failed {error : AuthServiceError}
    (houtcome : event.outcome libraries certs session.store = (.error error, session.store))
    (hopensWith : ∀ passphrase, event.call.opensWith = some passphrase →
      session.passphrase ≠ some passphrase) :
    CallRight libraries certs event session := by
  have hfailed : ¬ event.Succeeds libraries certs session.store := by
    rw [AuthEvent.Succeeds, houtcome]
    exact Bool.false_ne_true
  refine ⟨fun cert hcert => ?_, fun passphrase hpassphrase => ?_, fun _ _ => hfailed,
    fun _ => ?_, fun text htext => ?_, fun _ hok => absurd hok hfailed,
    fun _ _ _ _ _ hok => absurd hok hfailed⟩
  · rw [houtcome]
    exact hcert
  · exact iff_of_false hfailed (hopensWith passphrase hpassphrase)
  · rw [houtcome]
  · rw [houtcome] at htext
    cases htext

theorem AuthSession.Sound.unused (hsound : session.Sound libraries certs)
    (hfree : session.passphrase = none) : Unused session.store := by
  rwa [AuthSession.Sound, hfree] at hsound

theorem AuthCall.not_creates {call : AuthCall} (hopensWith : call.opensWith = some passphrase) :
    ¬ call.Creates := by
  cases call with
  | handleSignup => cases hopensWith
  | importUser => cases hopensWith
  | loadCertificate => exact id
  | exportCertificate => exact id
  | changePassphrase => exact id

theorem succeeds_of_ok {reply : AuthReply Cert}
    (houtcome : event.outcome libraries certs session.store = (.ok reply, store)) :
    event.Succeeds libraries certs session.store := by
  rw [AuthEvent.Succeeds, houtcome]
  rfl

theorem AuthSession.Sound.callRight (hsound : session.Sound libraries certs)
    (hnoImport : NoImport libraries certs event session) :
    CallRight libraries certs event session := by
  have heffect : AuthEffect libraries certs event session := hsound.effect
  cases heffect with
  | failed error houtcome hopensWith => exact callRight_of_failed houtcome hopensWith
  | signedUp username passphrase domain cert store user hfree hcall houtcome hopens
      hstored howner hcertifies =>
      have hok := succeeds_of_ok houtcome
      have hnone := storedCert?_of_unused (hsound.unused hfree)
      refine ⟨fun other hother => ?_, fun given hgiven => ?_, fun _ hsome => ?_,
        fun hfailed => absurd hok hfailed, fun text htext => ?_, fun _ _ => ?_,
        fun _ _ _ _ himport => ?_⟩
      · cases hnone.symm.trans hother
      · rw [hcall] at hgiven
        cases hgiven
      · rw [hnone] at hsome
        cases hsome
      · rw [houtcome] at htext
        cases htext
      · rw [houtcome]
        exact ⟨cert, storedCert?_of_opens hopens, user, hstored, howner, hcertifies⟩
      · cases hcall.symm.trans himport
  | imported text passphrase username peerDeviceId cert reply store hfree hcall houtcome
      hopens haccount =>
      exact absurd haccount (hnoImport text passphrase username peerDeviceId hcall hfree)
  | opened passphrase cert reply store hheld hopensWith houtcome hbefore hopens hexported =>
      have hok := succeeds_of_ok houtcome
      have hcreates := AuthCall.not_creates hopensWith
      refine ⟨fun other hother => ?_, fun given hgiven => ?_,
        fun hcreated => absurd hcreated hcreates, fun hfailed => absurd hok hfailed,
        fun text htext => ?_, fun hcreated => absurd hcreated hcreates,
        fun _ _ _ _ himport => ?_⟩
      · rw [houtcome, storedCert?_of_opens hopens]
        rwa [storedCert?_of_opens hbefore] at hother
      · rw [← hgiven, hopensWith]
        exact iff_of_true hok hheld
      · rw [houtcome] at htext
        exact ⟨cert, storedCert?_of_opens hbefore, hexported text (Except.ok.inj htext)⟩
      · rw [himport] at hopensWith
        cases hopensWith

variable (libraries certs) in
def LifeCycle (start : AuthSession Cert) (events : List AuthEvent) : Prop :=
  ∀ earlier event, earlier ++ [event] <+: events →
    CallRight libraries certs event (run (proceed libraries certs) start earlier)

/-- The life of a certificate in which nothing is imported. -/
theorem lifeCycle {start : AuthSession Cert} {events : List AuthEvent}
    (hstart : Unused start.store) (hfree : start.passphrase = none)
    (hnoImport : ∀ earlier event, earlier ++ [event] <+: events →
      NoImport libraries certs event (run (proceed libraries certs) start earlier)) :
    LifeCycle libraries certs start events := by
  have hsound : ∀ earlier, earlier <+: events →
      (run (proceed libraries certs) start earlier).Sound libraries certs := by
    refine @run_invariant _ _ (proceed libraries certs) start events
      (fun _ session => session.Sound libraries certs) ?_ fun _ _ _ hearlier =>
        hearlier.proceed
    rw [AuthSession.Sound, hfree]
    exact hstart
  intro earlier event hearlier
  exact (hsound earlier ((List.prefix_append _ _).trans hearlier)).callRight
    (hnoImport earlier event hearlier)

end Calls

end Sessions

namespace TextCertificate

def certs : CertLibrary String :=
  { generateCertificate := fun _ username => .ok username
    getPublicKeyArmored := id
    armored := id
    fromStr := .ok
    deriveUcanKeysFromPgp := fun _ => .ok (List.replicate 32 65) }

def libraries : Libraries :=
  let tabled := Libraries.tabled []
  let crate := { tabled.ucan.crate with
    build := fun _ => .ok ()
    sign := fun request => .ok
      { issuer := request.issuer, audience := request.audience
        capabilities := request.capabilities } }
  { tabled with ucan := { tabled.ucan with crate } }

def draw : Draw :=
  { seed := 0, salt := ⟨List.replicate 16 0, rfl⟩, deviceKey := List.replicate 32 66
    folderId := "folder", folderShareRecordId := "record" }

def event (call : AuthCall) : AuthEvent := { now := 0, draw, call }

def signedUpEvents : List AuthEvent :=
  [event (.handleSignup "alice" "first" "domain"),
    event (.changePassphrase "first" "second"), event (.loadCertificate "second"),
    event (.importUser "bob" "third" "bob" "phone")]

end TextCertificate

open TextCertificate in
theorem lifeCycle_signedUp : LifeCycle libraries certs {} signedUpEvents := by
  refine lifeCycle ⟨rfl, rfl, rfl⟩ rfl fun earlier event hearlier => ?_
  refine @EachEvent.of_prefix _ (fun earlier event => NoImport libraries certs event
    (run (proceed libraries certs) {} earlier)) [] signedUpEvents earlier event
      ⟨?_, ?_, ?_, ?_, trivial⟩ hearlier
  · exact fun _ _ _ _ himport => nomatch himport
  · exact fun _ _ _ _ himport => nomatch himport
  · exact fun _ _ _ _ himport => nomatch himport
  · intro _ _ _ _ _ hfree
    exact absurd hfree (by decide +kernel)

open TextCertificate in
theorem not_lifeCycle_import :
    ¬ LifeCycle libraries certs {} [event (.importUser "alice" "first" "alice" "phone")] := by
  intro hlife
  obtain ⟨cert, _, user, huser, _, _, signingKey, hderive, hkey⟩ :=
    (hlife [] _ List.prefix_rfl).created trivial rfl
  cases hderive
  cases List.mem_singleton.mp huser
  exact absurd hkey (by decide +kernel)

end Osvauld.Services
