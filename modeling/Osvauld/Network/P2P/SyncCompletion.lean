import Osvauld.Network.P2P.SyncReplies
import Osvauld.Network.P2P.UserSyncPhases

namespace Osvauld.Network

open Osvauld.Core Data Persistance Services

/-! How often the initiator of a synchronization comes to the merges, and when. -/

inductive Manifests where
  | device (localPayload remotePayload : DeviceManifestRequestPayload)
  | user (localPayload remotePayload : UserManifestRequestPayload)

namespace Manifests

def kind : Manifests → ConnectionType
  | .device _ _ => .device
  | .user _ _ => .user

def response : Manifests → Message
  | .device localPayload remotePayload =>
      .deviceManifestResponse (compareDeviceManifests localPayload remotePayload)
  | .user localPayload remotePayload =>
      .userManifestPayload (.response (compareUserManifests localPayload remotePayload))

def keep : Manifests → Handler PUnit
  | .device localPayload remotePayload =>
      setDeviceManifestComparisonResult (compareDeviceManifests localPayload remotePayload)
  | .user localPayload remotePayload =>
      setUserManifestComparisonResult (compareUserManifests localPayload remotePayload)

def onlyResponder : Manifests → List String
  | .device localPayload remotePayload =>
      (compareDeviceManifests localPayload remotePayload).remoteMissing.unknownResources
  | .user localPayload remotePayload =>
      (compareUserManifests localPayload remotePayload).remoteMissing.unknownResources

def onlyInitiator : Manifests → List String
  | .device localPayload remotePayload =>
      (compareDeviceManifests localPayload remotePayload).localMissing.unknownResources
  | .user localPayload remotePayload =>
      (compareUserManifests localPayload remotePayload).localMissing.unknownResources

def requiringSync : Manifests → List String
  | .device localPayload remotePayload =>
      (compareDeviceManifests localPayload remotePayload).resourcesRequiringSync
  | .user localPayload remotePayload =>
      (compareUserManifests localPayload remotePayload).resourcesRequiringSync

theorem nodup (manifests : Manifests) :
    manifests.onlyResponder.Nodup ∧ manifests.onlyInitiator.Nodup ∧
      manifests.requiringSync.Nodup := by
  cases manifests with
  | device localPayload remotePayload =>
      exact ⟨List.nodup_dedup _, List.nodup_dedup _, (List.nodup_dedup _).filter _⟩
  | user localPayload remotePayload =>
      exact ⟨List.nodup_dedup _, List.nodup_dedup _, (List.nodup_dedup _).filter _⟩

def standing (manifests : Manifests) : Side → Standing
  | .initiator =>
      { isInitiator := true
        kind := manifests.kind
        toCome := manifests.onlyResponder
        toSend := manifests.onlyInitiator
        toSync := manifests.requiringSync }
  | .responder =>
      { isInitiator := false
        kind := manifests.kind
        toCome := manifests.onlyInitiator
        toSend := manifests.onlyResponder
        toSync := manifests.requiringSync }

def opening (manifests : Manifests) : List SyncMove :=
  match manifests with
  | .device _ _ => [.ack, .entities]
  | .user _ _ => [.ack]

end Manifests

def startTransfer (env : NetworkEnv) (manifests : Manifests)
    (initiator responder : Session) : SyncPair :=
  let waiting : SyncEnd := { session := initiator }
  let session := receive env manifests.response initiator
  { initiator := { session, told := waiting.tell session }
    responder :=
      { session := (manifests.keep.run responder).2
        inbox := waiting.tell session } }

/-- The ends are connected as the two ends of a synchronization of the kind, and
the initiator gets to tell that it has heard of the comparison. -/
structure CanTransfer (env : NetworkEnv) (manifests : Manifests)
    (initiator responder : Session) : Prop where
  initiates : initiator.connection.isInitiator = true
  responds : responder.connection.isInitiator = false
  initiatorKind : initiator.connection.kind = manifests.kind
  responderKind : responder.connection.kind = manifests.kind
  hears : ((processMessage env manifests.response).run initiator).1 = .ok .unit

def moved (kind : ConnectionType) (messages : List Message) : List SyncMove :=
  messages.filterMap (move? kind)

theorem moved_append (kind : ConnectionType) (first second : List Message) :
    moved kind (first ++ second) = moved kind first ++ moved kind second :=
  List.filterMap_append

theorem moved_merge (kind : ConnectionType) (payload : ResourceUpdateMsg) :
    (∃ resourceId, moved kind [.mergeUpdate payload] = [.stateVector resourceId]) ∨
      moved kind [.mergeUpdate payload] = [] := by
  cases payload with
  | stateVectorRequest resourceId stateVectors token =>
      exact .inl ⟨resourceId, by cases kind <;> rfl⟩
  | _ => exact .inr (by cases kind <;> rfl)

theorem move?_of_not_merge (kind : ConnectionType) {message : Message}
    (hother : ¬ ∃ payload, message = .mergeUpdate payload) :
    ∃ move, move? kind message = some move ∧ move.stateVector? = none := by
  cases message with
  | mergeUpdate payload => exact absurd ⟨payload, rfl⟩ hother
  | userManifestPayload payload => cases kind <;> cases payload <;> exact ⟨_, rfl, rfl⟩
  | folderSync payload => cases kind <;> cases payload <;> exact ⟨_, rfl, rfl⟩
  | _ => cases kind <;> exact ⟨_, rfl, rfl⟩

theorem Standing.quietly (standing : Standing) (moves : List SyncMove) (resourceId : String) :
    standing.dealing (moves ++ [.stateVector resourceId]) = standing.dealing moves ∧
      standing.told (moves ++ [.stateVector resourceId]) = standing.told moves := by
  have hreplies (standing : Standing) : standing.replies (.stateVector resourceId) = [] := by
    obtain ⟨isInitiator, kind, toCome, toSend, toSync⟩ := standing
    cases kind <;> rfl
  rw [dealing_concat, told_concat, hreplies, List.append_nil]
  exact ⟨rfl, rfl⟩

namespace SyncEnd

structure Complies (start : Standing) (opening : List SyncMove) (mine : SyncEnd) : Prop where
  stands : standing? mine.session.connection = some (start.dealing (moved start.kind mine.done))
  told : moved start.kind mine.told = opening ++ start.told (moved start.kind mine.done)

variable {start : Standing} {opening : List SyncMove}
variable {self other : SyncEnd} {env : NetworkEnv} {index : Nat} {message : Message}

theorem receive_standing (hsession : self.session = receive env message other.session) :
    standing? self.session.connection =
      standing? ((processMessage env message).run other.session).2.connection := by
  obtain ⟨events, heq⟩ := receive_eq env message other.session
  rw [hsession, heq]
  rfl

theorem receive_shows {kind : ConnectionType} {moves : List SyncMove} {session : Session}
    (hshows : Shows kind moves self.session.connection
      ((processMessage env message).run self.session).2.connection)
    (hsession : session = receive env message self.session) :
    moved kind (self.tell session) = moves := by
  obtain ⟨messages, hsent, hmoves⟩ := hshows
  rw [hsession, tell, receive_sent, hsent, List.drop_left]
  exact hmoves

section

variable (hcomplies : self.Complies start opening)

include hcomplies

theorem Complies.quietly {after : SyncEnd}
    (hsession : after.session = receive env message self.session)
    (hstill : Still self.session.connection
      ((processMessage env message).run self.session).2.connection)
    (htold : after.told = self.told ++ self.tell after.session)
    (hdone : start.dealing (moved start.kind after.done) =
        start.dealing (moved start.kind self.done) ∧
      start.told (moved start.kind after.done) = start.told (moved start.kind self.done)) :
    after.Complies start opening := by
  have hkind : self.session.connection.kind = start.kind := by
    rw [(standing?_same hcomplies.stands).2]
    exact (start.dealing_same _).2.1
  refine ⟨?_, ?_⟩
  · rw [receive_standing hsession, hstill.standing, hcomplies.stands, hdone.1]
  · rw [htold, moved_append, receive_shows (hkind ▸ hstill.shows) hsession, hcomplies.told,
      hdone.2, List.append_nil]

theorem Complies.answering {move : SyncMove} (hmessage : move? start.kind message = some move)
    (hforeign : move ≠ .foreign) (hvector : move.stateVector? = none)
    (hsucceeds : self.Succeeds env message) {after : SyncEnd}
    (hsession : after.session = receive env message self.session)
    (htold : after.told = self.told ++ self.tell after.session)
    (hdone : after.done = self.done ++ [message]) : after.Complies start opening := by
  have hkind : (start.dealing (moved start.kind self.done)).kind = start.kind :=
    (start.dealing_same _).2.1
  have hmakes := processMessage_makes env (hkind.symm ▸ hmessage) hforeign hvector
  obtain ⟨hstands, hshows⟩ := hmakes _ _ _ hcomplies.stands (Prod.ext hsucceeds rfl)
  rw [hkind] at hshows
  have hmoves : moved start.kind after.done = moved start.kind self.done ++ [move] := by
    have hlast : moved start.kind [message] = [move] := List.filterMap_cons_some hmessage
    rw [hdone, moved_append, hlast]
  refine ⟨?_, ?_⟩
  · rw [receive_standing hsession, hstands, hmoves, Standing.dealing_concat]
  · rw [htold, moved_append, receive_shows hshows hsession, hcomplies.told, hmoves,
      Standing.told_concat, List.append_assoc]

theorem Complies.deliver (hmessage : self.inbox[index]? = some message)
    (hforeign : move? start.kind message ≠ some .foreign)
    (hfails : ¬ self.Succeeds env message → MayMiss start.kind start.isInitiator message) :
    (self.deliver env index other).1.Complies start opening := by
  unfold SyncEnd.deliver
  rw [hmessage]
  by_cases hsucceeds : self.Succeeds env message
  · have hdone : (if ((processMessage env message).run self.session).1 = .ok .unit then
        self.done ++ [message] else self.done) = self.done ++ [message] := if_pos hsucceeds
    by_cases hmerge : ∃ payload, message = .mergeUpdate payload
    · obtain ⟨payload, rfl⟩ := hmerge
      have hstill := run_keeps (Still.processResourceUpdateMessage env payload) Still.refl
        Still.trans self.session
      refine hcomplies.quietly rfl hstill rfl ?_
      dsimp only
      rw [hdone, moved_append]
      rcases moved_merge start.kind payload with ⟨resourceId, hmove⟩ | hnone
      · rw [hmove]
        exact start.quietly _ resourceId
      · rw [hnone, List.append_nil]
        exact ⟨rfl, rfl⟩
    · obtain ⟨move, hmove, hvector⟩ := move?_of_not_merge start.kind hmerge
      refine hcomplies.answering hmove ?_ hvector hsucceeds rfl rfl hdone
      rintro rfl
      exact hforeign hmove
  · have hdone : (if ((processMessage env message).run self.session).1 = .ok .unit then
        self.done ++ [message] else self.done) = self.done := if_neg hsucceeds
    cases hrun : (processMessage env message).run self.session with
    | mk outcome session' =>
        cases outcome with
        | ok value => exact absurd (congrArg Prod.fst hrun) hsucceeds
        | error error =>
            have hstill := still_of_mayMiss env (hfails hsucceeds) hrun
            refine hcomplies.quietly rfl (by rwa [hrun]) rfl ?_
            dsimp only
            rw [hdone]
            exact ⟨rfl, rfl⟩

theorem Complies.delivered
    (hforeign : ∀ message ∈ self.inbox, move? start.kind message ≠ some .foreign)
    (hfailed : ∀ message ∈ (self.deliver env index other).1.failed,
      MayMiss start.kind start.isInitiator message) :
    (self.deliver env index other).1.Complies start opening := by
  cases hmessage : self.inbox[index]? with
  | none =>
      unfold SyncEnd.deliver
      rwa [hmessage]
  | some message =>
      exact hcomplies.deliver hmessage (hforeign message (List.mem_of_getElem? hmessage))
        fun hfails => hfailed message (mem_failed hmessage hfails)

end

theorem Complies.told_to (hcomplies : other.Complies start opening) :
    (self.deliver env index other).2.Complies start opening := by
  unfold SyncEnd.deliver
  split <;> exact ⟨hcomplies.stands, hcomplies.told⟩

theorem Complies.elsewhere (hcomplies : self.Complies start opening)
    (repo : RepositoryContext) : (self.elsewhere repo).Complies start opening :=
  ⟨hcomplies.stands, hcomplies.told⟩

theorem Complies.count_told (hcomplies : self.Complies start opening) {move : SyncMove}
    (hphase : move.isPhase = true) :
    (moved start.kind self.told).count move = opening.count move +
      ((move.causes start.kind start.isInitiator).map fun cause =>
        (moved start.kind self.done).count cause).sum := by
  rw [hcomplies.told, List.count_append, start.count_told hphase]

theorem Hears.count_moved (hhears : self.Hears other) (kind : ConnectionType)
    (move : SyncMove) :
    (moved kind other.told).count move = (moved kind self.inbox).count move +
      ((moved kind self.done).count move + (moved kind self.failed).count move) := by
  have hcount := (hhears.filterMap (move? kind)).count_eq move
  rwa [List.filterMap_append, List.filterMap_append, List.count_append,
    List.count_append] at hcount

end SyncEnd

namespace SyncPair

structure Attuned (manifests : Manifests) (pair : SyncPair) : Prop where
  initiator : pair.initiator.Complies (manifests.standing .initiator) manifests.opening
  responder : pair.responder.Complies (manifests.standing .responder) []
  initiatorHears : pair.initiator.Hears pair.responder
  responderHears : pair.responder.Hears pair.initiator

structure Unhindered (kind : ConnectionType) (pair : SyncPair) : Prop where
  initiator : ∀ message ∈ pair.initiator.failed, MayMiss kind true message
  responder : ∀ message ∈ pair.responder.failed, MayMiss kind false message

variable {manifests : Manifests} {pair : SyncPair} {event : SyncEvent}

theorem Unhindered.of_step {kind : ConnectionType}
    (hunhindered : (event.step pair).Unhindered kind) : pair.Unhindered kind := by
  obtain ⟨hinitiator, hresponder⟩ := hunhindered
  cases event with
  | deliver side env index =>
      cases side with
      | initiator =>
          refine ⟨fun message hmem => hinitiator message (SyncEnd.failed_subset hmem), ?_⟩
          intro message hmem
          refine hresponder message ?_
          rwa [← @SyncEnd.deliver_other_failed pair.initiator _ env index] at hmem
      | responder =>
          refine ⟨?_, fun message hmem => hresponder message (SyncEnd.failed_subset hmem)⟩
          intro message hmem
          refine hinitiator message ?_
          rwa [← @SyncEnd.deliver_other_failed pair.responder _ env index] at hmem
  | elsewhere side repo => cases side <;> exact ⟨hinitiator, hresponder⟩

theorem Attuned.not_foreign (hattuned : pair.Attuned manifests) :
    (∀ message ∈ pair.initiator.inbox, move? manifests.kind message ≠ some .foreign) ∧
      ∀ message ∈ pair.responder.inbox, move? manifests.kind message ≠ some .foreign := by
  have hpos {messages : List Message} {message : Message} (hmem : message ∈ messages)
      (hmessage : move? manifests.kind message = some .foreign) :
      0 < (moved manifests.kind messages).count .foreign :=
    List.count_pos_iff.mpr (List.mem_filterMap.mpr ⟨message, hmem, hmessage⟩)
  have hcauses (kind : ConnectionType) (isInitiator : Bool) :
      SyncMove.foreign.causes kind isInitiator = [] := by cases kind <;> rfl
  have hopening : manifests.opening.count .foreign = 0 := by cases manifests <;> rfl
  have hinitiator : (moved manifests.kind pair.initiator.told).count .foreign = 0 := by
    refine (hattuned.initiator.count_told rfl).trans ?_
    rw [hcauses, hopening]
    rfl
  have hresponder : (moved manifests.kind pair.responder.told).count .foreign = 0 := by
    refine (hattuned.responder.count_told rfl).trans ?_
    rw [hcauses]
    rfl
  refine ⟨fun message hmem hforeign => ?_, fun message hmem hforeign => ?_⟩
  · have hheard := hattuned.initiatorHears.count_moved manifests.kind .foreign
    have := hpos hmem hforeign
    omega
  · have hheard := hattuned.responderHears.count_moved manifests.kind .foreign
    have := hpos hmem hforeign
    omega

theorem Attuned.step (hattuned : pair.Attuned manifests)
    (hunhindered : (event.step pair).Unhindered manifests.kind) :
    (event.step pair).Attuned manifests := by
  obtain ⟨hinitiator, hresponder⟩ := hunhindered
  obtain ⟨hknown, hknown'⟩ := hattuned.not_foreign
  cases event with
  | deliver side env index =>
      cases side with
      | initiator =>
          exact
            { initiator := hattuned.initiator.delivered hknown hinitiator
              responder := hattuned.responder.told_to
              initiatorHears := hattuned.initiatorHears.deliver
              responderHears := hattuned.responderHears.told }
      | responder =>
          exact
            { initiator := hattuned.initiator.told_to
              responder := hattuned.responder.delivered hknown' hresponder
              initiatorHears := hattuned.initiatorHears.told
              responderHears := hattuned.responderHears.deliver }
  | elsewhere side repo =>
      cases side with
      | initiator => exact { hattuned with initiator := hattuned.initiator.elsewhere repo }
      | responder => exact { hattuned with responder := hattuned.responder.elsewhere repo }

end SyncPair

variable {manifests : Manifests} {start : SyncPair} {events : List SyncEvent}

theorem response_makes {env : NetworkEnv} {initiator session' : Session}
    (hinitiates : initiator.connection.isInitiator = true)
    (hkind : initiator.connection.kind = manifests.kind)
    (hrun : (processMessage env manifests.response).run initiator = (.ok .unit, session')) :
    standing? session'.connection = some (manifests.standing .initiator) ∧
      Shows manifests.kind manifests.opening initiator.connection session'.connection := by
  cases manifests with
  | device localPayload remotePayload =>
      have hkept : standing? ((setDeviceManifestComparisonResult
          (compareDeviceManifests localPayload remotePayload).inverse).run initiator).2.connection =
            some ((Manifests.device localPayload remotePayload).standing .initiator) := by
        refine (standing?_of_device (by exact hkind) rfl).trans ?_
        dsimp only [setDeviceManifestComparisonResult, run_changeConnection]
        rw [hinitiates]
        rfl
      have hanswer : Makes ((Manifests.device localPayload remotePayload).standing .initiator)
          ((Manifests.device localPayload remotePayload).standing .initiator)
          ([.ack] ++ [.entities])
          (do sendMessage .deviceManifestAck; sendDeviceNetworkSync) :=
        .bind rfl (.sendMessage rfl) fun _ => makes_sendDeviceNetworkSync rfl
      exact hanswer ((setDeviceManifestComparisonResult
        (compareDeviceManifests localPayload remotePayload).inverse).run initiator).2 _ session'
        hkept hrun
  | user localPayload remotePayload =>
      have hkept : standing? ((setUserManifestComparisonResult
          (compareUserManifests localPayload remotePayload).inverse).run initiator).2.connection =
            some ((Manifests.user localPayload remotePayload).standing .initiator) := by
        refine (standing?_of_user (by exact hkind) rfl).trans ?_
        dsimp only [setUserManifestComparisonResult, run_changeConnection]
        rw [hinitiates]
        rfl
      have hanswer : Makes ((Manifests.user localPayload remotePayload).standing .initiator)
          ((Manifests.user localPayload remotePayload).standing .initiator) [.ack]
          (sendMessage (.userManifestPayload .ack)) := .sendMessage rfl
      exact hanswer ((setUserManifestComparisonResult
        (compareUserManifests localPayload remotePayload).inverse).run initiator).2 _ session'
        hkept hrun

theorem keep_stands {responder : Session} (hresponds : responder.connection.isInitiator = false)
    (hkind : responder.connection.kind = manifests.kind) :
    standing? (manifests.keep.run responder).2.connection =
      some (manifests.standing .responder) := by
  cases manifests with
  | device localPayload remotePayload =>
      refine (standing?_of_device (by exact hkind) rfl).trans ?_
      dsimp only [Manifests.keep, setDeviceManifestComparisonResult, run_changeConnection]
      rw [hresponds]
      rfl
  | user localPayload remotePayload =>
      refine (standing?_of_user (by exact hkind) rfl).trans ?_
      dsimp only [Manifests.keep, setUserManifestComparisonResult, run_changeConnection]
      rw [hresponds]
      rfl

theorem startTransfer_attuned {env : NetworkEnv} {manifests : Manifests}
    {initiator responder : Session} (hstart : CanTransfer env manifests initiator responder) :
    (startTransfer env manifests initiator responder).Attuned manifests := by
  obtain ⟨hstands, hshows⟩ := response_makes hstart.initiates hstart.initiatorKind
    (Prod.ext hstart.hears rfl)
  have hsession : (startTransfer env manifests initiator responder).initiator.session =
      receive env manifests.response initiator := rfl
  exact
    { initiator :=
        ⟨(@SyncEnd.receive_standing _ { session := initiator } env _ hsession).trans hstands,
          (@SyncEnd.receive_shows { session := initiator } env _ _ _ _ hshows rfl).trans
            (List.append_nil _).symm⟩
      responder := ⟨keep_stands hstart.responds hstart.responderKind, rfl⟩
      initiatorHears := .refl _
      responderHears := by
        change List.Perm _ (_ ++ ([] ++ []))
        rw [List.append_nil, List.append_nil]
        exact .refl _ }

theorem afterSync_attuned (hstart : start.Attuned manifests)
    (hunhindered : (afterSync start events).Unhindered manifests.kind) :
    (afterSync start events).Attuned manifests := by
  induction events using List.reverseRecOn with
  | nil => exact hstart
  | append_singleton earlier event ih =>
      rw [afterSync, run_concat] at hunhindered ⊢
      exact (ih hunhindered.of_step).step hunhindered

theorem unhindered_earlier {kind : ConnectionType} {earlier : List SyncEvent}
    (hearlier : earlier <+: events) (hunhindered : (afterSync start events).Unhindered kind) :
    (afterSync start earlier).Unhindered kind := by
  obtain ⟨later, rfl⟩ := hearlier
  induction later using List.reverseRecOn with
  | nil => rwa [List.append_nil] at hunhindered
  | append_singleton later event ih =>
      rw [← List.append_assoc, afterSync, run_concat] at hunhindered
      exact ih hunhindered.of_step

theorem count_of_mayMiss {kind : ConnectionType} {isInitiator : Bool}
    {messages : List Message} {move : SyncMove}
    (hmayMiss : ∀ message ∈ messages, MayMiss kind isInitiator message)
    (hvector : move.stateVector? = none) (hother : isInitiator = false → move ≠ .folders) :
    (moved kind messages).count move = 0 := by
  refine List.count_eq_zero.mpr fun hmem => ?_
  obtain ⟨message, hmessage, hmove⟩ := List.mem_filterMap.mp hmem
  rcases hmayMiss message hmessage with ⟨payload, rfl⟩ | ⟨hend, hfolders⟩
  · have hlast : moved kind [.mergeUpdate payload] = [move] := List.filterMap_cons_some hmove
    rcases moved_merge kind payload with ⟨resourceId, hvectors⟩ | hnone
    · cases hlast.symm.trans hvectors
      cases hvector
    · cases hlast.symm.trans hnone
  · cases hmove.symm.trans hfolders
    exact hother hend rfl

namespace SyncPair

variable {manifests : Manifests} {pair : SyncPair}

/-- Everything that was told has been dealt with, but the folders of the
initiator, which may have failed. -/
structure Arrived (kind : ConnectionType) (pair : SyncPair) : Prop where
  initiator : ∀ move : SyncMove, move.stateVector? = none →
    (moved kind pair.initiator.done).count move = (moved kind pair.responder.told).count move
  responder : ∀ move : SyncMove, move.stateVector? = none → move ≠ .folders →
    (moved kind pair.responder.done).count move = (moved kind pair.initiator.told).count move
  folders : (moved kind pair.responder.done).count .folders +
      (moved kind pair.responder.failed).count .folders =
    (moved kind pair.initiator.told).count .folders

theorem Attuned.arrived (hattuned : pair.Attuned manifests)
    (hunhindered : pair.Unhindered manifests.kind) (hcomplete : pair.Complete) :
    pair.Arrived manifests.kind := by
  have hnone (move : SyncMove) : (moved manifests.kind []).count move = 0 := rfl
  refine ⟨fun move hvector => ?_, fun move hvector hother => ?_, ?_⟩
  · have hheard := hattuned.initiatorHears.count_moved manifests.kind move
    rw [hcomplete.initiator, hnone, count_of_mayMiss hunhindered.initiator hvector nofun]
      at hheard
    omega
  · have hheard := hattuned.responderHears.count_moved manifests.kind move
    rw [hcomplete.responder, hnone,
      count_of_mayMiss hunhindered.responder hvector fun _ => hother] at hheard
    omega
  · have hheard := hattuned.responderHears.count_moved manifests.kind .folders
    rw [hcomplete.responder, hnone] at hheard
    omega

theorem Attuned.openers_device (hattuned : pair.Attuned manifests)
    (hkind : manifests.kind = .device) (harrived : pair.Arrived manifests.kind) :
    (moved manifests.kind pair.initiator.done).count .entitiesAck = 1 ∧
      (moved manifests.kind pair.responder.done).count .entitiesAck = 1 := by
  have htold (move : SyncMove) (hphase : move.isPhase = true) :=
    @SyncEnd.Complies.count_told _ _ _ hattuned.initiator move hphase
  have htold' (move : SyncMove) (hphase : move.isPhase = true) :=
    @SyncEnd.Complies.count_told _ _ _ hattuned.responder move hphase
  obtain ⟨hdone, hdone', -⟩ := harrived
  cases manifests with
  | user => cases hkind
  | device localPayload remotePayload =>
      simp only [Manifests.standing, Manifests.kind] at htold htold' hdone hdone' ⊢
      have hacks := htold .ack rfl
      have hentities := htold .entities rfl
      have hentitiesAcks := htold .entitiesAck rfl
      have hacks' := htold' .ack rfl
      have hentities' := htold' .entities rfl
      have hentitiesAcks' := htold' .entitiesAck rfl
      simp only [Manifests.opening, SyncMove.causes, List.map_cons, List.map_nil, List.sum_cons,
        List.sum_nil] at hacks hentities hentitiesAcks hacks' hentities' hentitiesAcks'
      have hack := hdone .ack rfl
      have hack' := hdone' .ack rfl nofun
      have hentity := hdone .entities rfl
      have hentity' := hdone' .entities rfl nofun
      have hopener := hdone .entitiesAck rfl
      have hopener' := hdone' .entitiesAck rfl nofun
      have hopening : [SyncMove.ack, .entities].count .ack = 1 ∧
          [SyncMove.ack, .entities].count .entities = 1 ∧
            [SyncMove.ack, .entities].count .entitiesAck = 0 := by decide
      have hnone (move : SyncMove) : ([] : List SyncMove).count move = 0 := rfl
      rw [hnone] at hacks' hentities' hentitiesAcks'
      omega

theorem Attuned.openers_user (hattuned : pair.Attuned manifests)
    (hkind : manifests.kind = .user) (harrived : pair.Arrived manifests.kind)
    (hrefused : 0 < (moved manifests.kind pair.responder.failed).count .folders) :
    (moved manifests.kind pair.initiator.done).count .recipients = 1 ∧
      (moved manifests.kind pair.responder.done).count .recipients = 1 := by
  have htold (move : SyncMove) (hphase : move.isPhase = true) :=
    @SyncEnd.Complies.count_told _ _ _ hattuned.initiator move hphase
  have htold' (move : SyncMove) (hphase : move.isPhase = true) :=
    @SyncEnd.Complies.count_told _ _ _ hattuned.responder move hphase
  obtain ⟨hdone, hdone', hfolders⟩ := harrived
  cases manifests with
  | device => cases hkind
  | user localPayload remotePayload =>
      simp only [Manifests.standing, Manifests.kind] at htold htold' hdone hdone' hfolders hrefused ⊢
      have hacks := htold .ack rfl
      have hentities := htold .entities rfl
      have hentitiesAcks := htold .entitiesAck rfl
      have hfolder := htold .folders rfl
      have hrecipients := htold .recipients rfl
      have hacks' := htold' .ack rfl
      have hentities' := htold' .entities rfl
      have hentitiesAcks' := htold' .entitiesAck rfl
      have hfolder' := htold' .folders rfl
      have hrecipients' := htold' .recipients rfl
      simp only [Manifests.opening, SyncMove.causes, List.map_cons, List.map_nil, List.sum_cons,
        List.sum_nil, if_true] at hacks hentities hentitiesAcks hfolder hrecipients
      simp only [SyncMove.causes, List.map_cons, List.map_nil, List.sum_cons, List.sum_nil,
        Bool.false_eq_true, if_false] at hacks' hentities' hentitiesAcks' hfolder' hrecipients'
      have hack := hdone .ack rfl
      have hack' := hdone' .ack rfl nofun
      have hentity := hdone .entities rfl
      have hentity' := hdone' .entities rfl nofun
      have hentitiesAck := hdone .entitiesAck rfl
      have hentitiesAck' := hdone' .entitiesAck rfl nofun
      have hanswered := hdone .folders rfl
      have hopener := hdone .recipients rfl
      have hopener' := hdone' .recipients rfl nofun
      have hopening : [SyncMove.ack].count .ack = 1 ∧ [SyncMove.ack].count .entities = 0 ∧
          [SyncMove.ack].count .entitiesAck = 0 ∧ [SyncMove.ack].count .folders = 0 ∧
            [SyncMove.ack].count .recipients = 0 := by decide
      have hnone (move : SyncMove) : ([] : List SyncMove).count move = 0 := rfl
      rw [hnone] at hacks' hentities' hentitiesAcks' hfolder' hrecipients'
      omega

theorem Attuned.openers (hattuned : pair.Attuned manifests)
    (hunhindered : pair.Unhindered manifests.kind) (hcomplete : pair.Complete)
    (hrefused : manifests.kind = .user → pair.FoldersRefused) :
    (moved manifests.kind pair.initiator.done).count (SyncMove.opener manifests.kind) = 1 ∧
      (moved manifests.kind pair.responder.done).count (SyncMove.opener manifests.kind) = 1 := by
  have harrived := hattuned.arrived hunhindered hcomplete
  cases hkind : manifests.kind with
  | device =>
      have honce := hattuned.openers_device hkind harrived
      rwa [hkind] at honce
  | user =>
      obtain ⟨message, hmem, hfolders⟩ := hrefused hkind
      have hmove : move? manifests.kind message = some .folders := by
        rw [hkind]
        cases message with
        | folderSync payload => cases payload <;> first | rfl | cases hfolders
        | userManifestPayload payload => cases payload <;> cases hfolders
        | _ => cases hfolders
      have hfailed : 0 < (moved manifests.kind pair.responder.failed).count .folders :=
        List.count_pos_iff.mpr (List.mem_filterMap.mpr ⟨message, hmem, hmove⟩)
      have honce := hattuned.openers_user hkind harrived hfailed
      rwa [hkind] at honce

end SyncPair

def requested (messages : List Message) : List String :=
  messages.filterMap fun
    | .mergeUpdate (.stateVectorRequest resourceId _ _) => some resourceId
    | _ => none

theorem requested_eq (kind : ConnectionType) (messages : List Message) :
    requested messages = (moved kind messages).filterMap SyncMove.stateVector? := by
  rw [requested, moved, List.filterMap_filterMap]
  refine List.filterMap_congr fun message _ => ?_
  cases message with
  | mergeUpdate payload => cases payload <;> cases kind <;> rfl
  | userManifestPayload payload => cases payload <;> cases kind <;> rfl
  | folderSync payload => cases payload <;> cases kind <;> rfl
  | _ => cases kind <;> rfl

theorem sentResources_moved (kind : ConnectionType) (messages : List Message) :
    sentResources messages = (moved kind messages).filterMap SyncMove.resource? := by
  rw [sentResources, moved, List.filterMap_filterMap]
  refine List.filterMap_congr fun message _ => ?_
  cases message with
  | mergeUpdate payload => cases payload <;> cases kind <;> rfl
  | userManifestPayload payload => cases payload <;> cases kind <;> rfl
  | folderSync payload => cases payload <;> cases kind <;> rfl
  | _ => cases kind <;> rfl

theorem count_resources (moves : List SyncMove) (resourceId : String) :
    (moves.filterMap SyncMove.resource?).count resourceId =
      moves.count (.resource resourceId) := by
  induction moves with
  | nil => rfl
  | cons move rest ih =>
      cases move with
      | resource other =>
          have hresource : (SyncMove.resource other).resource? = some other := rfl
          rw [List.filterMap_cons_some hresource, List.count_cons, List.count_cons, ih]
          simp
      | _ =>
          rw [List.count_cons_of_ne (by simp)]
          exact ih

theorem opening_parts (manifests : Manifests) :
    manifests.opening.filterMap SyncMove.stateVector? = [] ∧
      manifests.opening.filterMap SyncMove.resource? = [] := by
  cases manifests <;> exact ⟨rfl, rfl⟩

namespace SyncPair.Attuned

variable {manifests : Manifests} {pair : SyncPair}

theorem requested_told (hattuned : pair.Attuned manifests) :
    requested pair.initiator.told =
      (List.replicate ((moved manifests.kind pair.initiator.done).count .complete)
        manifests.requiringSync).flatten := by
  have htold : moved manifests.kind pair.initiator.told = manifests.opening ++
      (manifests.standing .initiator).told (moved manifests.kind pair.initiator.done) :=
    hattuned.initiator.told
  rw [requested_eq manifests.kind, htold, List.filterMap_append, (opening_parts manifests).1,
    Standing.stateVectors_told]
  rfl

theorem resources_told (hattuned : pair.Attuned manifests) :
    sentResources pair.initiator.told =
        (List.replicate ((moved manifests.kind pair.initiator.done).count
          (SyncMove.opener manifests.kind)) manifests.onlyInitiator).flatten ∧
      sentResources pair.responder.told =
        (List.replicate ((moved manifests.kind pair.responder.done).count
          (SyncMove.opener manifests.kind)) manifests.onlyResponder).flatten := by
  have htold : moved manifests.kind pair.initiator.told = manifests.opening ++
      (manifests.standing .initiator).told (moved manifests.kind pair.initiator.done) :=
    hattuned.initiator.told
  have htold' : moved manifests.kind pair.responder.told =
      (manifests.standing .responder).told (moved manifests.kind pair.responder.done) :=
    hattuned.responder.told
  rw [sentResources_moved manifests.kind, sentResources_moved manifests.kind, htold, htold',
    List.filterMap_append, (opening_parts manifests).2, Standing.resources_told,
    Standing.resources_told]
  exact ⟨rfl, rfl⟩

theorem completes (hattuned : pair.Attuned manifests)
    (hunhindered : pair.Unhindered manifests.kind) (hcomplete : pair.Complete)
    (hrefused : manifests.kind = .user → pair.FoldersRefused)
    (halike : manifests.onlyResponder = [] ↔ manifests.onlyInitiator = []) :
    (moved manifests.kind pair.initiator.done).count .complete = 1 := by
  obtain ⟨hopener, hopener'⟩ := hattuned.openers hunhindered hcomplete hrefused
  have harrived := hattuned.arrived hunhindered hcomplete
  have htold : moved manifests.kind pair.responder.told =
      (manifests.standing .responder).told (moved manifests.kind pair.responder.done) :=
    hattuned.responder.told
  have hsent : sentResources pair.initiator.told = manifests.onlyInitiator := by
    rw [hattuned.resources_told.1, hopener]
    exact List.append_nil _
  have hreceived : (sentResources pair.responder.done).Perm manifests.onlyInitiator := by
    rw [← hsent, List.perm_iff_count]
    intro resourceId
    rw [sentResources_moved manifests.kind, sentResources_moved manifests.kind,
      count_resources, count_resources]
    exact harrived.responder _ rfl nofun
  have hempties := Standing.emptied_of_perm (hreceived.nodup_iff.mpr manifests.nodup.2.1)
    hreceived
  rw [sentResources_moved manifests.kind] at hempties
  have hcount : (moved manifests.kind pair.responder.told).count .complete =
      1 * (if manifests.onlyResponder.isEmpty then 1 else 0) +
        (if manifests.onlyInitiator.isEmpty then 0 else 1) := by
    have hopened : (moved manifests.kind pair.responder.done).count
        (SyncMove.opener (manifests.standing .responder).kind) = 1 := hopener'
    rw [htold, Standing.completes_told, hopened, ← hempties]
    rfl
  rw [harrived.initiator _ rfl, hcount]
  cases hresponder : manifests.onlyResponder with
  | nil =>
      rw [halike.mp hresponder]
      rfl
  | cons resourceId rest =>
      have hsome : manifests.onlyInitiator ≠ [] := fun hnone => by
        cases hresponder.symm.trans (halike.mpr hnone)
      cases hinitiator : manifests.onlyInitiator with
      | nil => exact absurd hinitiator hsome
      | cons _ _ => rfl

end SyncPair.Attuned

def awaited (connection : PeerConnection) : List String :=
  ((standing? connection).map Standing.toCome).getD []

def Awaits (start : SyncPair) (events : List SyncEvent) : Prop :=
  ∀ earlier env index, earlier ++ [.deliver .initiator env index] <+: events →
    (afterSync start earlier).initiator.inbox[index]? = some .resourceAdditionComplete →
      awaited (afterSync start earlier).initiator.session.connection = []

theorem SyncEnd.done_of_deliver {self other : SyncEnd} {env : NetworkEnv} {index : Nat} :
    (self.deliver env index other).1.done = self.done ∨
      ∃ message, self.inbox[index]? = some message ∧
        (self.deliver env index other).1.done = self.done ++ [message] := by
  unfold SyncEnd.deliver
  cases hmessage : self.inbox[index]? with
  | none => exact .inl rfl
  | some message =>
      dsimp only
      split
      · exact .inr ⟨message, rfl, rfl⟩
      · exact .inl rfl

theorem SyncEnd.done_of_told {self other : SyncEnd} {env : NetworkEnv} {index : Nat} :
    (self.deliver env index other).2.done = other.done := by
  unfold SyncEnd.deliver
  split <;> rfl

theorem eq_of_move?_complete {kind : ConnectionType} {message : Message}
    (hmove : move? kind message = some .complete) : message = .resourceAdditionComplete := by
  cases message with
  | resourceAdditionComplete => rfl
  | mergeUpdate payload => cases payload <;> cases kind <;> cases hmove
  | userManifestPayload payload => cases payload <;> cases kind <;> cases hmove
  | folderSync payload => cases payload <;> cases kind <;> cases hmove
  | _ => cases kind <;> cases hmove

def SyncPair.Received (manifests : Manifests) (pair : SyncPair) : Prop :=
  .complete ∈ moved manifests.kind pair.initiator.done →
    manifests.onlyResponder ⊆ sentResources pair.initiator.done

theorem SyncPair.Attuned.awaited {pair : SyncPair} (hattuned : pair.Attuned manifests) :
    Network.awaited pair.initiator.session.connection =
      manifests.onlyResponder.filter fun id => id ∉ sentResources pair.initiator.done := by
  have hstands : standing? pair.initiator.session.connection =
      some ((manifests.standing .initiator).dealing
        (moved manifests.kind pair.initiator.done)) := hattuned.initiator.stands
  rw [Network.awaited, hstands, sentResources_moved manifests.kind]
  exact Standing.toCome_dealing _ _

theorem SyncPair.Received.step {manifests : Manifests} {pair : SyncPair} {event : SyncEvent}
    (hreceived : pair.Received manifests) (hattuned : pair.Attuned manifests)
    (hawaits : ∀ env index, event = .deliver .initiator env index →
      pair.initiator.inbox[index]? = some .resourceAdditionComplete →
        Network.awaited pair.initiator.session.connection = []) :
    (event.step pair).Received manifests := by
  cases event with
  | elsewhere side repo => cases side <;> exact hreceived
  | deliver side env index =>
      cases side with
      | responder =>
          have hdone : ((SyncEvent.deliver .responder env index).step pair).initiator.done =
              pair.initiator.done := SyncEnd.done_of_told
          unfold SyncPair.Received
          rwa [hdone]
      | initiator =>
          rcases @SyncEnd.done_of_deliver pair.initiator pair.responder env index with
            hsame | ⟨message, hmessage, hdone⟩
          · have hdone : ((SyncEvent.deliver .initiator env index).step pair).initiator.done =
                pair.initiator.done := hsame
            unfold SyncPair.Received
            rwa [hdone]
          · have hnext : ((SyncEvent.deliver .initiator env index).step pair).initiator.done =
                pair.initiator.done ++ [message] := hdone
            have hmore : sentResources pair.initiator.done ⊆
                sentResources (pair.initiator.done ++ [message]) := by
              rw [sentResources, sentResources, List.filterMap_append]
              exact List.subset_append_left _ _
            unfold SyncPair.Received
            rw [hnext, moved_append]
            intro hcomplete
            refine List.Subset.trans ?_ hmore
            rcases List.mem_append.mp hcomplete with hearlier | hlast
            · exact hreceived hearlier
            · have hmessage' : message = .resourceAdditionComplete := by
                obtain ⟨other, hother, hmove⟩ := List.mem_filterMap.mp hlast
                rw [List.mem_singleton.mp hother] at hmove
                exact eq_of_move?_complete hmove
              have hnone := hawaits env index rfl (hmessage' ▸ hmessage)
              rw [hattuned.awaited, List.filter_eq_nil_iff] at hnone
              intro resourceId hmem
              simpa using hnone resourceId hmem

theorem afterSync_received (hstart : start.Attuned manifests) (hfresh : start.initiator.done = [])
    (hunhindered : (afterSync start events).Unhindered manifests.kind)
    (hawaits : Awaits start events) {earlier : List SyncEvent} (hearlier : earlier <+: events) :
    (afterSync start earlier).Received manifests := by
  induction earlier using List.reverseRecOn with
  | nil =>
      intro hcomplete
      change _ ∈ moved manifests.kind start.initiator.done at hcomplete
      rw [hfresh] at hcomplete
      exact absurd hcomplete List.not_mem_nil
  | append_singleton before event ih =>
      have hbefore := (List.prefix_append before [event]).trans hearlier
      have hattuned := afterSync_attuned hstart (unhindered_earlier hbefore hunhindered)
      rw [afterSync, run_concat]
      refine (ih hbefore).step hattuned fun env index hevent hmessage => ?_
      exact hawaits before env index (hevent ▸ hearlier) hmessage

/-- The initiator asks once for each resource that requires it, and not before it
has dealt with every resource that is sent to it. -/
structure SyncsOnce (manifests : Manifests) (start : SyncPair) (events : List SyncEvent) :
    Prop where
  once : ∀ resourceId, (requested (afterSync start events).initiator.told).count resourceId =
    if resourceId ∈ manifests.requiringSync then 1 else 0
  late : ∀ earlier, earlier <+: events →
    requested (afterSync start earlier).initiator.told ≠ [] →
      (sentResources (afterSync start events).responder.told).Subperm
        (sentResources (afterSync start earlier).initiator.done)

/-- Nothing requires a merge, or the responder tells of one completion, and the
initiator has all the resources by then. Between users the resources are sent once
only where the responder could not deal with the initiator's folders. -/
def CompletesOnce (manifests : Manifests) (start : SyncPair) (events : List SyncEvent) :
    Prop :=
  manifests.requiringSync = [] ∨
    (manifests.kind = .user → (afterSync start events).FoldersRefused) ∧
      (manifests.onlyResponder = [] ↔ manifests.onlyInitiator = []) ∧ Awaits start events

/-- Where nothing else fails, the merges are asked for once and late enough. -/
theorem requests_once {env : NetworkEnv} {manifests : Manifests}
    {initiator responder : Session} {events : List SyncEvent}
    (hstart : CanTransfer env manifests initiator responder)
    (hcomplete : (afterSync (startTransfer env manifests initiator responder)
      events).Complete)
    (hunhindered : (afterSync (startTransfer env manifests initiator responder)
      events).Unhindered manifests.kind)
    (hcondition : CompletesOnce manifests (startTransfer env manifests initiator responder)
      events) :
    SyncsOnce manifests (startTransfer env manifests initiator responder) events := by
  have hfirst := startTransfer_attuned hstart
  have hattuned := afterSync_attuned hfirst hunhindered
  have hattuned' {earlier : List SyncEvent} (hearlier : earlier <+: events) :=
    afterSync_attuned hfirst (unhindered_earlier hearlier hunhindered)
  rcases hcondition with hnothing | ⟨hrefused, halike, hawaits⟩
  · have hnone {pair : SyncPair} (hpair : pair.Attuned manifests) :
        requested pair.initiator.told = [] := by
      rw [hpair.requested_told, hnothing, List.flatten_eq_nil_iff]
      exact fun items hitems => List.eq_of_mem_replicate hitems
    refine ⟨fun resourceId => ?_, fun earlier hearlier hsome => ?_⟩
    · rw [hnone hattuned, hnothing]
      rfl
    · exact absurd (hnone (hattuned' hearlier)) hsome
  · have hrequested := hattuned.requested_told
    rw [hattuned.completes hunhindered hcomplete hrefused halike] at hrequested
    obtain ⟨-, hopener⟩ := hattuned.openers hunhindered hcomplete hrefused
    have hsent := hattuned.resources_told.2
    rw [hopener] at hsent
    refine ⟨fun resourceId => ?_, fun earlier hearlier hsome => ?_⟩
    · rw [hrequested]
      change (manifests.requiringSync ++ []).count resourceId = _
      rw [List.append_nil]
      split
      · next hmem => exact List.count_eq_one_of_mem manifests.nodup.2.2 hmem
      · next hmem => exact List.count_eq_zero.mpr hmem
    · have hreceived := afterSync_received hfirst rfl hunhindered hawaits hearlier
      have hcompleted : SyncMove.complete ∈ moved manifests.kind
          (afterSync (startTransfer env manifests initiator responder)
            earlier).initiator.done := by
        refine List.count_pos_iff.mp (Nat.pos_of_ne_zero fun hzero => hsome ?_)
        rw [(hattuned' hearlier).requested_told, hzero]
        rfl
      rw [hsent]
      change List.Subperm (manifests.onlyResponder ++ []) _
      rw [List.append_nil]
      exact List.subperm_of_subset manifests.nodup.1 (hreceived hcompleted)

def awaitsThroughout : SyncPair → List SyncEvent → Bool
  | _, [] => true
  | pair, event :: rest =>
      (match event with
        | .deliver .initiator _ index =>
            match pair.initiator.inbox[index]? with
            | some .resourceAdditionComplete =>
                (awaited pair.initiator.session.connection).isEmpty
            | _ => true
        | _ => true) && awaitsThroughout (event.step pair) rest

theorem awaits_of_throughout (hthroughout : awaitsThroughout start events = true) :
    Awaits start events := by
  intro earlier env index hearlier hmessage
  induction events generalizing start earlier with
  | nil => simp at hearlier
  | cons first rest ih =>
      obtain ⟨hfirst, hrest⟩ := (Bool.and_eq_true _ _).mp hthroughout
      cases earlier with
      | nil =>
          obtain ⟨rfl, _⟩ := List.cons_prefix_cons.mp hearlier
          change start.initiator.inbox[index]? = _ at hmessage
          dsimp only at hfirst
          rw [hmessage] at hfirst
          exact List.isEmpty_iff.mp hfirst
      | cons head tail =>
          obtain ⟨rfl, htail⟩ := List.cons_prefix_cons.mp hearlier
          exact ih hrest tail htail hmessage

def syncedNote (resourceId : String) : Resource :=
  .new resourceId 0 .notes (.sealed "k" (.encoded (.object
    [("main_doc", .ofBytes [1])]))) "folder" "" "R"

def deviceStore (resourceIds : List String) (clockValue : Nat) : RepositoryContext :=
  { ownerStore with
    devices := [.sample "dev-R" "R", .sample "dev-S" "R"]
    resources := resourceIds.map syncedNote
    resourceKeys := resourceIds.map fun resourceId =>
      .new ("key-" ++ resourceId) 0 resourceId "R" (.sealed "R" "k") true
    shareRecords := resourceIds.map fun resourceId =>
      .prepareShareRecord ("share-" ++ resourceId) 0 resourceId "R" "R" .admin "own" "own"
    vectorClocks := resourceIds.map fun resourceId =>
      .ofDomain (.new ("clock-" ++ resourceId) 0 resourceId "dev-R" clockValue) }

def manifestOf (repo : RepositoryContext) : DeviceManifestRequestPayload :=
  ((getDeviceManifest "R").run repo).1.toOption.getD
    { knownDeviceIds := [], otherUsers := [], folderIds := [], resources := [] }

def deviceManifests (first second : List String) : Manifests :=
  .device (manifestOf (deviceStore second 2)) (manifestOf (deviceStore first 1))

def deviceEnd (resourceIds : List String) (clockValue : Nat) (isInitiator : Bool)
    (remoteDeviceId : String) : Session :=
  { repo := deviceStore resourceIds clockValue
    connection := .new remoteDeviceId remoteDeviceId isInitiator none (some .device)
      (.sample "R") (.sample remoteDeviceId "R") }

def deviceTransfer (first second : List String) : SyncPair :=
  startTransfer ownerEnv (deviceManifests first second) (deviceEnd first 1 true "dev-S")
    (deviceEnd second 2 false "dev-R")

def otherDeviceEnv : NetworkEnv :=
  .tabled noteTokens (.sample "R") (.sample "dev-S" "R")

def devicesInTurn (rounds : Nat) : List SyncEvent :=
  (List.replicate rounds
    [.deliver .responder otherDeviceEnv 0, .deliver .initiator ownerEnv 0]).flatten

theorem deviceTransfer_canTransfer {first second : List String}
    (hhears : ((processMessage ownerEnv (deviceManifests first second).response).run
      (deviceEnd first 1 true "dev-S")).1 = .ok .unit) :
    CanTransfer ownerEnv (deviceManifests first second) (deviceEnd first 1 true "dev-S")
      (deviceEnd second 2 false "dev-R") :=
  ⟨rfl, rfl, rfl, rfl, hhears⟩

/-- Each device holds a note that the other one lacks. -/
theorem requests_once_exchange :
    (deviceManifests ["a", "c"] ["b", "c"]).requiringSync = ["c"] ∧
      SyncsOnce (deviceManifests ["a", "c"] ["b", "c"])
        (deviceTransfer ["a", "c"] ["b", "c"]) (devicesInTurn 6) := by
  have hfailed : (afterSync (deviceTransfer ["a", "c"] ["b", "c"])
      (devicesInTurn 6)).initiator.failed = [] :=
    List.length_eq_zero_iff.mp (by decide +kernel)
  have hmerges : ((afterSync (deviceTransfer ["a", "c"] ["b", "c"])
      (devicesInTurn 6)).responder.failed.all fun
        | .mergeUpdate _ => true
        | _ => false) = true := by decide +kernel
  refine ⟨by decide +kernel, requests_once (deviceTransfer_canTransfer (by decide +kernel))
    ⟨List.length_eq_zero_iff.mp (by decide +kernel),
      List.length_eq_zero_iff.mp (by decide +kernel)⟩ ⟨?_, ?_⟩ (.inr ⟨nofun, ?_, ?_⟩)⟩
  · intro message hmem
    change message ∈ (afterSync (deviceTransfer _ _) (devicesInTurn 6)).initiator.failed at hmem
    rw [hfailed] at hmem
    cases hmem
  · intro message hmem
    have hmerge := List.all_eq_true.mp hmerges message hmem
    cases message with
    | mergeUpdate payload => exact .inl ⟨payload, rfl⟩
    | _ => cases hmerge
  · decide +kernel
  · exact awaits_of_throughout (by decide +kernel)

/-- Nothing fails, and yet the note that both hold is never asked for. -/
theorem never_requested_oneSided :
    (afterSync (deviceTransfer ["c"] ["b", "c"]) (devicesInTurn 6)).Complete ∧
      (afterSync (deviceTransfer ["c"] ["b", "c"]) (devicesInTurn 6)).Unhindered .device ∧
      (deviceManifests ["c"] ["b", "c"]).requiringSync = ["c"] ∧
        requested (afterSync (deviceTransfer ["c"] ["b", "c"])
          (devicesInTurn 6)).initiator.told = [] ∧
          ¬ SyncsOnce (deviceManifests ["c"] ["b", "c"])
            (deviceTransfer ["c"] ["b", "c"]) (devicesInTurn 6) := by
  have hrequired : (deviceManifests ["c"] ["b", "c"]).requiringSync = ["c"] := by
    decide +kernel
  have hrequested : requested (afterSync (deviceTransfer ["c"] ["b", "c"])
      (devicesInTurn 6)).initiator.told = [] := by decide +kernel
  have hfailed : (afterSync (deviceTransfer ["c"] ["b", "c"])
      (devicesInTurn 6)).initiator.failed = [] ∧
        (afterSync (deviceTransfer ["c"] ["b", "c"]) (devicesInTurn 6)).responder.failed = [] :=
    ⟨List.length_eq_zero_iff.mp (by decide +kernel),
      List.length_eq_zero_iff.mp (by decide +kernel)⟩
  refine ⟨⟨List.length_eq_zero_iff.mp (by decide +kernel),
    List.length_eq_zero_iff.mp (by decide +kernel)⟩, ⟨?_, ?_⟩, hrequired, hrequested,
    fun honce => ?_⟩
  · rw [hfailed.1]
    exact fun message hmem => absurd hmem List.not_mem_nil
  · rw [hfailed.2]
    exact fun message hmem => absurd hmem List.not_mem_nil
  have hcount := honce.once "c"
  rw [hrequested, hrequired] at hcount
  cases hcount

end Osvauld.Network
