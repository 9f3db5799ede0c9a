import Osvauld.CryptoUtils.ConnectChains
import Osvauld.Network.P2P.LastingContact
import Osvauld.Network.P2P.Node

namespace Osvauld.Network

open Osvauld.Core CryptoUtils Data Persistance Services

/-! Handshakes on the devices of a user, any number of them side by side, and the
one-time tokens that they come with. -/

/-- A handshake message that comes in on a connection of a device, or whatever else
happens to a device. -/
inductive UserCall where
  | handshake (device connection : Nat) (env : NetworkEnv) (payload : HandshakeMessage)
  | elsewhere (device : Nat) (node : Node)

namespace UserCall

def body : UserCall → Program (Nat → Node) P2PError PUnit
  | handshake device connection env payload =>
      (handleHandshakeMessage env payload).zoom
        (fun devices => (devices device).session connection)
        fun session devices =>
          Function.update devices device ((devices device).withSession connection session)
  | elsewhere device node =>
      Program.atomically fun devices => (.ok .unit, Function.update devices device node)

def Presents (token : String) : UserCall → Prop
  | handshake _ _ _ payload => (credentialsOf payload).connectToken = token
  | elsewhere .. => False

def isComplete (devices : Nat → Node) : UserCall → Bool
  | handshake device connection _ _ =>
      ((devices device).connections connection).handshakeComplete
  | elsewhere .. => false

end UserCall

abbrev afterHandshakes (start : Nat → Node) (events : List (PoolEvent UserCall)) :
    Pool UserCall (Nat → Node) P2PError PUnit :=
  run (Pool.step UserCall.body) { state := start } events

section Runs

variable (start : Nat → Node) (events : List (PoolEvent UserCall))

def Completes (index : Nat) : Prop :=
  ∃ earlier task, earlier ++ [.advance index] <+: events ∧
    (afterHandshakes start earlier).running[index]? = some task ∧
      task.call.isComplete (afterHandshakes start earlier).state = false ∧
        task.call.isComplete (afterHandshakes start (earlier ++ [.advance index])).state = true

/-- The token has been accepted in a handshake that went through, or at least came to
be complete. -/
def SucceedsWith (token : String) (index : Nat) : Prop :=
  ∃ task, (afterHandshakes start events).running[index]? = some task ∧
    task.call.Presents token ∧
      (task.left = .done (.ok .unit) ∨ Completes start events index)

def HasFailed (index : Nat) : Prop :=
  ∃ task error, (afterHandshakes start events).running[index]? = some task ∧
    task.left = .done (.error error) ∧ ¬ Completes start events index

end Runs

def GivenOut (libraries : UcanLibraries) (token : String) : Prop :=
  ∃ now signingKey capabilityStr,
    generateOneTimeConnectionToken libraries now signingKey capabilityStr = .ok token

def UsedOnce (libraries : UcanLibraries) (start : Nat → Node)
    (events : List (PoolEvent UserCall)) : Prop :=
  ∀ token, GivenOut libraries token → ∀ first second,
    SucceedsWith start events token first → SucceedsWith start events token second →
      first = second

/-- The message is signed, a device is logged in where it is asked for, and the token
is valid at the time, from the user and for connecting to it. -/
structure Passes (env : NetworkEnv) (payload : HandshakeMessage) : Prop where
  signature : ∃ ucanPubKey, verifyClearTextMessage env.now
    (credentialsOf payload).peerUser.publicKey (credentialsOf payload).signedUcanPub =
      .ok ucanPubKey
  device : env.currentDevice = none →
    ∃ response, payload = .handshakeFirstConnectResponse response
  token : ∃ user ucan, env.currentUser = some user ∧
    validateStructure env.libraries.ucan env.now (credentialsOf payload).connectToken =
        .ok ucan ∧
      CarriesUse (connectResource env.domain user.id) ucan ∧
        (isOneTimeConnectToken ucan env.domain = true →
          RootedIn env.libraries.ucan user.ucanPubKey ucan)

section Checks

variable {env : NetworkEnv} {payload : HandshakeMessage}

theorem Vouched.passes {ucanPubKey : String}
    (hvouched : Vouched env (credentialsOf payload) ucanPubKey)
    (hdevice : env.currentDevice = none →
      ∃ response, payload = .handshakeFirstConnectResponse response) : Passes env payload := by
  obtain ⟨hsignature, user, huser, haccepted⟩ := hvouched
  refine ⟨⟨ucanPubKey, hsignature⟩, hdevice, user, ?_⟩
  obtain ⟨ucan, hvalid, ⟨-, hroot, hcarries⟩ | ⟨hmany, -, hcarries, -⟩⟩ :=
    validateConnectToken_eq_ok_iff.mp haccepted
  · exact ⟨ucan, huser, hvalid, hcarries, fun _ => hroot⟩
  · exact ⟨ucan, huser, hvalid, hcarries, fun honce => by cases hmany.symm.trans honce⟩

def Fails {α : Type} (handler : Handler α) : Prop := ∃ error, handler = Program.fail error

theorem Fails.bind {α β : Type} {handler : Handler α} {continuation : α → Handler β}
    (hfails : Fails handler) : Fails (handler >>= continuation) := by
  obtain ⟨error, rfl⟩ := hfails
  exact ⟨error, rfl⟩

theorem fails_of_check {α β : Type} {result : Except P2PError α}
    {continuation : α → Handler β}
    (hrest : ∀ value, result = .ok value → Fails (continuation value)) :
    Fails ((Program.ofExcept result : Handler α) >>= continuation) := by
  cases result with
  | error error => exact ⟨error, rfl⟩
  | ok value => exact hrest value rfl

theorem requireConnectToken_fails {currentUser peerUser : User} {token ucanPubKey : String}
    (hrefused : validateConnectToken env.libraries.ucan env.now token ucanPubKey
      currentUser.ucanPubKey currentUser.id env.domain ≠ .ok true) :
    Fails (requireConnectToken env currentUser peerUser token ucanPubKey) := by
  unfold requireConnectToken
  cases hvalid : validateConnectToken env.libraries.ucan env.now token ucanPubKey
      currentUser.ucanPubKey currentUser.id env.domain with
  | error error => exact ⟨_, rfl⟩
  | ok accepted =>
      cases accepted with
      | true => exact absurd hvalid hrefused
      | false => exact ⟨_, rfl⟩

theorem handleHandshakeMessage_fails (hchecks : ¬ Passes env payload) :
    Fails (handleHandshakeMessage env payload) := by
  have hrefused (user : User) (huser : env.currentUser = some user) (ucanPubKey : String)
      (hsignature : verifyClearTextMessage env.now (credentialsOf payload).peerUser.publicKey
        (credentialsOf payload).signedUcanPub = .ok ucanPubKey)
      (hdevice : env.currentDevice = none →
        ∃ response, payload = .handshakeFirstConnectResponse response) :
      ∀ peerUser, Fails (requireConnectToken env user peerUser
        (credentialsOf payload).connectToken ucanPubKey) := by
    refine fun peerUser => requireConnectToken_fails fun haccepted => hchecks ?_
    exact Vouched.passes ⟨hsignature, user, huser, haccepted⟩ hdevice
  have huserFails {β : Type} {continuation : User → Handler β}
      (hrest : ∀ user, env.currentUser = some user → Fails (continuation user)) :
      Fails (getLocalUser env >>= continuation) := by
    unfold getLocalUser
    cases huser : env.currentUser with
    | none => exact Fails.bind ⟨_, rfl⟩
    | some user => exact hrest user huser
  have hdeviceFails {β : Type} {continuation : Device → Handler β}
      (hrest : ∀ device, env.currentDevice = some device → Fails (continuation device)) :
      Fails (getLocalDevice env >>= continuation) := by
    unfold getLocalDevice
    cases hdevice : env.currentDevice with
    | none => exact Fails.bind ⟨_, rfl⟩
    | some device => exact hrest device hdevice
  have hsigned {result : CryptoResult String} {ucanPubKey : String}
      (hresult : result.mapError P2PError.crypto = .ok ucanPubKey) :
      result = .ok ucanPubKey := mapError_eq_ok.mp hresult
  cases payload with
  | handshakeFirstConnectRequest request =>
      refine huserFails fun user huser => hdeviceFails fun device hdevice => ?_
      refine fails_of_check fun ucanPubKey hsignature => Fails.bind ?_
      exact hrefused user huser ucanPubKey (hsigned hsignature) (by simp [hdevice]) _
  | handshakeFirstConnectResponse response =>
      refine fails_of_check fun ucanPubKey hsignature => huserFails fun user huser => ?_
      exact Fails.bind (hrefused user huser ucanPubKey (hsigned hsignature)
        (fun _ => ⟨response, rfl⟩) _)
  | handshakeExchange exchange =>
      refine fails_of_check fun ucanPubKey hsignature => huserFails fun user huser => ?_
      refine hdeviceFails fun device hdevice => Fails.bind ?_
      exact hrefused user huser ucanPubKey (hsigned hsignature) (by simp [hdevice]) _

end Checks

section Runs

variable {libraries : UcanLibraries} {start : Nat → Node} {events : List (PoolEvent UserCall)}

def UserCall.MayPass : UserCall → Prop
  | handshake _ _ env payload => Passes env payload
  | elsewhere .. => True

/-- The call shows no token that another handshake has shown before and both can pass
with, unless the other has failed. -/
def ShowsUnspent (libraries : UcanLibraries) (start : Nat → Node)
    (earlier : List (PoolEvent UserCall)) (call : UserCall) : Prop :=
  ∀ token, GivenOut libraries token → call.Presents token → call.MayPass →
    ∀ index task, (afterHandshakes start earlier).running[index]? = some task →
      task.call.Presents token → task.call.MayPass → HasFailed start earlier index

theorem HasFailed.not_succeedsWith {index : Nat} {token : String}
    (hfailed : HasFailed start events index) : ¬ SucceedsWith start events token index := by
  obtain ⟨task, error, htask, hleft, hopen⟩ := hfailed
  rintro ⟨found, hfound, -, hok | hcompletes⟩
  · obtain rfl : task = found := Option.some.inj (htask.symm.trans hfound)
    cases hleft.symm.trans hok
  · exact hopen hcompletes

theorem HasFailed.later {event : PoolEvent UserCall} {index : Nat}
    (hfailed : HasFailed start events index) : HasFailed start (events ++ [event]) index := by
  obtain ⟨task, error, htask, hleft, hopen⟩ := hfailed
  refine ⟨task, error, ?_, hleft, ?_⟩
  · rw [afterHandshakes, run_concat]
    exact Pool.step_running_done UserCall.body htask hleft
  · rintro ⟨earlier, found, hearlier, hfound, hbefore, hafter⟩
    rcases List.prefix_concat_iff.mp hearlier with heq | hearlier
    · obtain ⟨rfl, hevent⟩ := List.append_inj' heq rfl
      -- The call is done, and nothing happens.
      rw [afterHandshakes, run_concat, Pool.step_advance_done UserCall.body htask hleft]
        at hafter
      cases hbefore.symm.trans hafter
    · exact hopen ⟨earlier, found, hearlier, hfound, hbefore, hafter⟩

theorem hasFailed_start {call : UserCall} (hcall : ¬ call.MayPass) :
    HasFailed start (events ++ [.start call]) (afterHandshakes start events).running.length := by
  cases call with
  | elsewhere device node => exact absurd trivial hcall
  | handshake device connection env payload =>
      obtain ⟨error, hfails⟩ := handleHandshakeMessage_fails hcall
      refine ⟨{ call := .handshake device connection env payload
                left := UserCall.body (.handshake device connection env payload)
                since := (afterHandshakes start events).state }, error, ?_, ?_, ?_⟩
      · rw [afterHandshakes, run_concat]
        exact List.getElem?_concat_length
      · change (handleHandshakeMessage env payload).zoom _ _ = _
        rw [hfails]
        rfl
      · rintro ⟨earlier, task, hearlier, htask, -⟩
        rcases List.prefix_concat_iff.mp hearlier with heq | hearlier
        · cases (List.append_inj' heq rfl).2
        · have hlength : (afterHandshakes start earlier).running.length ≤
              (afterHandshakes start events).running.length :=
            Pool.running_length_le UserCall.body ((List.prefix_append earlier _).trans hearlier)
          exact absurd (List.getElem?_eq_some_iff.mp htask).1 (Nat.not_lt.mpr hlength)

/-- What is kept of the calls of a pool: those that cannot pass have failed, and of two
that come with the same one-time token one has. -/
structure KeepsApart (libraries : UcanLibraries) (start : Nat → Node)
    (events : List (PoolEvent UserCall)) : Prop where
  barred : ∀ index task, (afterHandshakes start events).running[index]? = some task →
    ¬ task.call.MayPass → HasFailed start events index
  apart : ∀ token, GivenOut libraries token → ∀ first second task task', first < second →
    (afterHandshakes start events).running[first]? = some task →
      (afterHandshakes start events).running[second]? = some task' →
        task.call.Presents token → task'.call.Presents token →
          HasFailed start events first ∨ HasFailed start events second

theorem KeepsApart.step {event : PoolEvent UserCall}
    (hapart : KeepsApart libraries start events)
    (hunspent : ∀ call, event = .start call → ShowsUnspent libraries start events call) :
    KeepsApart libraries start (events ++ [event]) := by
  have hcases {index : Nat} {task : Running UserCall (Nat → Node) P2PError PUnit}
      (htask : (afterHandshakes start (events ++ [event])).running[index]? = some task) :=
    @Pool.step_running_cases _ _ _ _ UserCall.body event index (afterHandshakes start events)
      task (by rw [← htask, afterHandshakes, afterHandshakes, run_concat])
  constructor
  · intro index task htask hbarred
    obtain ⟨before, hbefore, hcall⟩ | ⟨rfl, rfl, -⟩ := hcases htask
    · exact (hapart.barred index before hbefore (hcall ▸ hbarred)).later
    · exact hasFailed_start hbarred
  · intro token hgiven first second task task' hlt hfirst hsecond hshows hshows'
    obtain ⟨before', hbefore', hcall'⟩ | ⟨rfl, rfl, -⟩ := hcases hsecond
    · obtain ⟨before, hbefore, hcall⟩ | ⟨rfl, -⟩ := hcases hfirst
      · exact (hapart.apart token hgiven first second before before' hlt hbefore hbefore'
          (hcall ▸ hshows) (hcall' ▸ hshows')).imp HasFailed.later HasFailed.later
      · exact absurd (List.getElem?_eq_some_iff.mp hbefore').1 (by omega)
    · obtain ⟨before, hbefore, hcall⟩ | ⟨rfl, -⟩ := hcases hfirst
      · by_cases hpasses' : task'.call.MayPass
        · by_cases hpasses : before.call.MayPass
          · exact .inl (hunspent task'.call rfl token hgiven hshows' hpasses' first before
              hbefore (hcall ▸ hshows) hpasses).later
          · exact .inl (hapart.barred first before hbefore hpasses).later
        · exact .inr (hasFailed_start hpasses')
      · exact absurd hlt (lt_irrefl _)

/-- As long as every one-time token is shown again only when the handshake it was shown
in has failed, or by a message that does not pass, none is accepted twice. -/
theorem oneTimeTokens_usedOnce_throughout
    (hunspent : ∀ earlier call, earlier ++ [.start call] <+: events →
      ShowsUnspent libraries start earlier call) :
    ∀ earlier, earlier <+: events → UsedOnce libraries start earlier := by
  have hthroughout : ∀ earlier, earlier <+: events → KeepsApart libraries start earlier := by
    refine @run_invariant _ _ (Pool.step UserCall.body) { state := start } events
      (fun earlier _ => KeepsApart libraries start earlier) ?_ ?_
    · constructor
      · intro index task htask
        cases htask
      · intro token _ first second task task' _ htask
        cases htask
    · rintro earlier event hearlier hbefore
      exact hbefore.step fun call hevent => hunspent earlier call (hevent ▸ hearlier)
  intro earlier hearlier token hgiven first second hfirst hsecond
  obtain ⟨task, htask, hshows, -⟩ := id hfirst
  obtain ⟨task', htask', hshows', -⟩ := id hsecond
  have hapart := (hthroughout earlier hearlier).apart token hgiven
  rcases Nat.lt_trichotomy first second with hlt | rfl | hgt
  · rcases hapart first second task task' hlt htask htask' hshows hshows' with hfailed | hfailed
    · exact absurd hfirst hfailed.not_succeedsWith
    · exact absurd hsecond hfailed.not_succeedsWith
  · rfl
  · rcases hapart second first task' task hgt htask' htask hshows' hshows with hfailed | hfailed
    · exact absurd hsecond hfailed.not_succeedsWith
    · exact absurd hfirst hfailed.not_succeedsWith

end Runs

namespace SharedLink

open TwoDevices

def token : String :=
  (signedUcan (oneTimeRequest (tabledLibraries []) 0 (tokenKey "alice") "livnote"
    "alice")).signedData

def asks (connection : Nat) (name : String) (now : Int) : UserCall :=
  .handshake 0 connection ((party "alice").env libraries "livnote" now)
    (.handshakeFirstConnectRequest
      { devices := [device name], issuedUcan := "for alice"
        signedUcanPub := .signed name (user name).ucanPubKey (now + signatureLifetime)
        oneTimeUcan := token, peerDevice := device name, peerUser := user name
        connectionType := .user })

def start : Nat → Node := fun _ =>
  { repo := (party "alice").store
    connections := fun index =>
      TwoDevices.connection "alice" (if index = 0 then "bob" else "carol") false }

def steps : List (PoolEvent UserCall) :=
  (List.replicate 20 [.advance 0, .advance 1]).flatten

def inTime : List (PoolEvent UserCall) :=
  .start (asks 0 "bob" 2) :: .start (asks 1 "carol" 3) :: steps

def tooLate : List (PoolEvent UserCall) :=
  .start (asks 0 "bob" 2) :: .start (asks 1 "carol" (oneTimeLifetime + 1)) :: steps

theorem givenOut : GivenOut libraries.ucan token :=
  ⟨0, tokenKey "alice", "livnote:user-connect:alice", rfl⟩

def wentThrough (pool : Pool UserCall (Nat → Node) P2PError PUnit) (index : Nat) : Bool :=
  match pool.running[index]? with
  | some { left := .done (.ok _), .. } => true
  | _ => false

theorem succeedsWith {events : List (PoolEvent UserCall)} {index : Nat} {call : UserCall}
    (hcall : (events.filterMap PoolEvent.started?)[index]? = some call)
    (hpresents : call.Presents token)
    (hwent : wentThrough (afterHandshakes start events) index = true) :
    SucceedsWith start events token index := by
  have hcalls := Pool.running_calls UserCall.body { state := start } events
  rw [List.map_nil, List.nil_append] at hcalls
  rw [← hcalls, List.getElem?_map] at hcall
  obtain ⟨task, htask, rfl⟩ := Option.map_eq_some_iff.mp hcall
  refine ⟨task, htask, hpresents, .inl ?_⟩
  rw [wentThrough, htask] at hwent
  split at hwent
  · next _ value heq =>
      cases Option.some.inj heq
      rfl
  · cases hwent

theorem not_mayPass : ¬ (asks 1 "carol" (oneTimeLifetime + 1)).MayPass := by
  rintro ⟨-, -, user, ucan, -, hvalid, -⟩
  have hrefused : (validateStructure libraries.ucan (oneTimeLifetime + 1) token).isOk = false := by
    decide +kernel
  have hvalid : validateStructure libraries.ucan (oneTimeLifetime + 1) token = .ok ucan := hvalid
  rw [hvalid] at hrefused
  cases hrefused

theorem start_tooLate {earlier : List (PoolEvent UserCall)} {call : UserCall}
    (hearlier : earlier ++ [.start call] <+: tooLate) :
    earlier = [] ∨ call = asks 1 "carol" (oneTimeLifetime + 1) := by
  match earlier with
  | [] => exact .inl rfl
  | [first] =>
      simp only [tooLate, List.cons_append, List.nil_append, List.cons_prefix_cons,
        PoolEvent.start.injEq] at hearlier
      exact .inr hearlier.2.1
  | first :: second :: rest =>
      simp only [tooLate, List.cons_append, List.cons_prefix_cons] at hearlier
      have hmem : PoolEvent.start call ∈ steps := hearlier.2.2.subset (by simp)
      simp [steps] at hmem

end SharedLink

open SharedLink in
theorem oneTimeTokens_usedOnce_throughout_tooLate :
    UsedOnce TwoDevices.libraries.ucan start tooLate := by
  refine oneTimeTokens_usedOnce_throughout (fun earlier call hearlier => ?_) tooLate
    List.prefix_rfl
  rcases start_tooLate hearlier with rfl | rfl
  · intro token _ _ _ index task htask
    cases htask
  · intro token _ _ hpasses
    exact absurd hpasses not_mayPass

open SharedLink in
/-- `carol` comes with the token while it is valid, and is let in as `bob` is. -/
theorem not_usedOnce_inTime :
    ¬ ∀ earlier, earlier <+: inTime → UsedOnce TwoDevices.libraries.ucan start earlier := by
  intro hused
  have hbob : SucceedsWith start inTime token 0 :=
    @succeedsWith inTime 0 (asks 0 "bob" 2) rfl rfl (by decide +kernel)
  have hcarol : SucceedsWith start inTime token 1 :=
    @succeedsWith inTime 1 (asks 1 "carol" 3) rfl rfl (by decide +kernel)
  exact absurd (hused inTime List.prefix_rfl token givenOut 0 1 hbob hcarol) (by decide)

end Osvauld.Network
