import Osvauld.Network.P2P.Guarantees
import Osvauld.Network.P2P.ProcessMessage

namespace Osvauld.Network

open Osvauld.Core Data Persistance Services

/-! Which merge messages change the store, and what was checked before. -/

structure SameResourceTables (ctx ctx' : RepositoryContext) : Prop where
  resources_eq : ctx'.resources = ctx.resources
  resourceKeys_eq : ctx'.resourceKeys = ctx.resourceKeys
  shareRecords_eq : ctx'.shareRecords = ctx.shareRecords
  vectorClocks_eq : ctx'.vectorClocks = ctx.vectorClocks

def Accepts (env : NetworkEnv) (session : Session)
    (payload : ResourceUpdateMsg) : Prop :=
  env.currentUser.isSome ∧
    match payload with
    | .stateVectorRequest resourceId _ token
    | .updatesResponse resourceId _ token =>
        ((validateAuthorityForUpdate env.toServiceEnv resourceId token
          session.connection.user.id).run session.repo).1 = .ok true
    | _ => False

def Replies (payload reply : ResourceUpdateMsg) : Prop :=
  reply.resourceId = payload.resourceId ∧
    match payload, reply with
    | .stateVectorRequest .., .updatesResponse .. => True
    | .updatesResponse .., .finalUpdateMerge .. => True
    | .finalUpdateMerge .., .vectorClockResponse .. => True
    | _, _ => False

theorem validateAuthorityForUpdate_readonly (env : ServiceEnv)
    (resourceId token peerUserId : String) (ctx : RepositoryContext) :
    ((validateAuthorityForUpdate env resourceId token peerUserId).run ctx).2 =
      ctx := by
  unfold validateAuthorityForUpdate query
  simp only [Program.run_bind, Program.run_read]
  cases (UserRepo.getUserById peerUserId ctx).mapError ServiceError.repository with
  | error error => rfl
  | ok peerUser =>
      simp only [Program.andThen_ok, Program.run_bind, Program.run_read]
      cases (ResourceRepo.findOwnerByResourceId resourceId ctx).mapError
          ServiceError.repository with
      | error error => rfl
      | ok owner => rfl

variable {session : Session}

theorem requireUpdateAuthority_andThen {env : NetworkEnv} {resourceId token : String}
    (hrefused : ((validateAuthorityForUpdate env.toServiceEnv resourceId token
      session.connection.user.id).run session.repo).1 ≠ .ok true)
    (continuation : PUnit → Handler PUnit) :
    (Program.andThen ((requireUpdateAuthority env resourceId token).run session)
      continuation).2 = session := by
  have hreadonly := validateAuthorityForUpdate_readonly env.toServiceEnv
    resourceId token session.connection.user.id session.repo
  unfold requireUpdateAuthority getPeerUser readConnection
  simp only [Program.run_bind, Program.run_read, Program.andThen_ok,
    run_callService, hreadonly]
  cases hresult : ((validateAuthorityForUpdate env.toServiceEnv resourceId token
      session.connection.user.id).run session.repo).1 with
  | error error => rfl
  | ok valid =>
      cases valid with
      | false => rfl
      | true => exact absurd hresult hrefused

theorem refused_unchanged {env : NetworkEnv} {payload : ResourceUpdateMsg}
    (hrefused : ¬Accepts env session payload)
    (htoken : match payload with
      | .stateVectorRequest .. | .updatesResponse .. => True
      | _ => False) : ((processResourceUpdateMessage env payload).run session).2 = session := by
  unfold processResourceUpdateMessage getLocalUser
  cases huser : env.currentUser with
  | none => rfl
  | some user =>
      cases payload with
      | stateVectorRequest resourceId stateVectors token =>
          simp only [Program.run_bind, Program.run_pure, Program.andThen_ok,
            processStateVectorRequest]
          exact requireUpdateAuthority_andThen
            (fun hok => hrefused ⟨by simp [huser], hok⟩) _
      | updatesResponse resourceId updates token =>
          simp only [Program.run_bind, Program.run_pure, Program.andThen_ok,
            processUpdatesResponse]
          exact requireUpdateAuthority_andThen
            (fun hok => hrefused ⟨by simp [huser], hok⟩) _
      | finalUpdateMerge => exact htoken.elim
      | vectorClockResponse => exact htoken.elim

structure Talks (allowed : Message → Prop)
    (connection connection' : PeerConnection) : Prop where
  user_eq : connection'.user = connection.user
  sent : ∃ new, connection'.sent = connection.sent ++ new ∧
    ∀ message ∈ new, allowed message

namespace Talks

variable {allowed : Message → Prop}

theorem refl (connection : PeerConnection) :
    Talks allowed connection connection := ⟨rfl, [], by simp⟩

theorem trans {first second third : PeerConnection}
    (hfirst : Talks allowed first second) (hsecond : Talks allowed second third) :
    Talks allowed first third := by
  obtain ⟨huser, new, hnew, hallowed⟩ := hfirst
  obtain ⟨huser', new', hnew', hallowed'⟩ := hsecond
  refine ⟨huser'.trans huser, new ++ new', by rw [hnew', hnew, List.append_assoc],
    fun message hmessage => ?_⟩
  rcases List.mem_append.mp hmessage with hmem | hmem
  · exact hallowed message hmem
  · exact hallowed' message hmem

theorem callService {α : Type} (service : Service α) :
    Program.Guarantees (OnConnection (Talks allowed)) (callService service) :=
  .connection_callService refl service

theorem updateRepo
    (write : RepositoryContext → Except RepositoryError RepositoryContext) :
    Program.Guarantees (OnConnection (Talks allowed)) (updateRepo write) :=
  .connection_updateRepo refl write

theorem emit (event : P2PEvent) :
    Program.Guarantees (OnConnection (Talks allowed)) (emit event) :=
  .connection_change fun _ => ⟨rfl, [], by simp⟩

theorem sendMessage {message : Message} (hallowed : allowed message) :
    Program.Guarantees (OnConnection (Talks allowed)) (sendMessage message) :=
  .connection_change fun _ => ⟨rfl, [message], rfl, by simpa using hallowed⟩

end Talks

def Answers (payload : ResourceUpdateMsg) (message : Message) : Prop :=
  ∃ reply, message = .mergeUpdate reply ∧ Replies payload reply

theorem requireUpdateAuthority_talks (env : NetworkEnv)
    (resourceId token : String) (allowed : Message → Prop) :
    Program.Guarantees (OnConnection (Talks allowed))
      (requireUpdateAuthority env resourceId token) := by
  refine .bind (.connection_read Talks.refl _) fun peerUser => ?_
  refine .bind (Talks.callService _) fun valid => ?_
  exact .ite (.fail _) (.pure _)

section

variable (env : NetworkEnv) (user : User) (resourceId : String)

theorem processStateVectorRequest_talks (stateVectors : JsonText) (token : String) :
    Program.Guarantees
      (OnConnection (Talks
        (Answers (.stateVectorRequest resourceId stateVectors token))))
      (processStateVectorRequest env user resourceId stateVectors token) := by
  refine .bind (requireUpdateAuthority_talks _ _ _ _) fun _ => ?_
  refine .bind (Talks.callService _) fun updates => ?_
  refine .bind (Talks.callService _) fun ucanToken => ?_
  exact Talks.sendMessage ⟨_, rfl, rfl, trivial⟩

theorem processUpdatesResponse_talks (updates : JsonText) (token : String) :
    Program.Guarantees
      (OnConnection (Talks
        (Answers (.updatesResponse resourceId updates token))))
      (processUpdatesResponse env user resourceId updates token) := by
  refine .bind (requireUpdateAuthority_talks _ _ _ _) fun _ => ?_
  refine .bind (Talks.callService _) fun remoteUpdates => ?_
  refine .bind (Talks.callService _) fun shareRecords => ?_
  refine .bind (Talks.callService _) fun vectorClocks => ?_
  refine .bind (Talks.callService _) fun resourceKeys => ?_
  refine .bind (Talks.sendMessage ⟨_, rfl, rfl, trivial⟩) fun _ => ?_
  refine .bind (.connection_read Talks.refl _) fun peerDevice => ?_
  refine .bind (.getClientId _ _) fun clientId => ?_
  exact Talks.emit _

theorem processFinalUpdateMerge_talks (updates : JsonText) (vectorClocks : List ResourceVectorClock)
    (shareRecords : List ShareRecord) (resourceKeys : List ResourceKey) :
    Program.Guarantees
      (OnConnection (Talks (Answers (.finalUpdateMerge resourceId updates
        vectorClocks shareRecords resourceKeys))))
      (processFinalUpdateMerge env user resourceId updates vectorClocks
        shareRecords resourceKeys) := by
  refine .bind (Talks.callService _) fun _ => ?_
  refine .bind (.connection_read Talks.refl _) fun peerDevice => ?_
  refine .bind (.getClientId _ _) fun clientId => ?_
  refine .bind (Talks.emit _) fun _ => ?_
  refine .bind (Talks.callService _) fun localResourceKeys => ?_
  refine .bind (Talks.updateRepo _) fun _ => ?_
  refine .bind (Talks.callService _) fun changes => ?_
  refine .bind (Talks.callService _) fun remoteShareRecords => ?_
  exact Talks.sendMessage ⟨_, rfl, rfl, trivial⟩

end

theorem processVectorClockResponse_talks
    (updateClock addClock : List ResourceVectorClock)
    (shareRecords : List ShareRecord) (resourceKeys : List ResourceKey)
    (allowed : Message → Prop) :
    Program.Guarantees (OnConnection (Talks allowed))
      (processVectorClockResponse updateClock addClock shareRecords
        resourceKeys) := by
  refine .bind (Talks.callService _) fun _ => ?_
  refine .bind (Talks.callService _) fun _ => ?_
  exact Talks.updateRepo _

theorem processResourceUpdateMessage_talks (env : NetworkEnv)
    (payload : ResourceUpdateMsg) :
    Program.Guarantees (OnConnection (Talks (Answers payload)))
      (processResourceUpdateMessage env payload) := by
  refine .bind (.getLocalUser env) fun user => ?_
  cases payload with
  | stateVectorRequest resourceId stateVectors token =>
      exact processStateVectorRequest_talks env user resourceId stateVectors token
  | updatesResponse resourceId updates token =>
      exact processUpdatesResponse_talks env user resourceId updates token
  | finalUpdateMerge resourceId updates vectorClocks shareRecords resourceKeys =>
      exact processFinalUpdateMerge_talks env user resourceId updates
        vectorClocks shareRecords resourceKeys
  | vectorClockResponse resourceId updateClock addClock shareRecords keys =>
      exact processVectorClockResponse_talks updateClock addClock shareRecords
        keys _

/-- A merge message arrives, or the rest of the program (the application and
the other connections) has changed the store. -/
inductive UpdateEvent where
  | deliver (env : NetworkEnv) (payload : ResourceUpdateMsg)
  | elsewhere (repo : RepositoryContext)

def UpdateEvent.step : UpdateEvent → Session → Session
  | .deliver env payload, session => receive env (.mergeUpdate payload) session
  | .elsewhere repo, session => { session with repo }

abbrev afterUpdates (start : Session) (events : List UpdateEvent) : Session :=
  run UpdateEvent.step start events

theorem afterUpdates_concat (start : Session) (earlier : List UpdateEvent)
    (event : UpdateEvent) :
    afterUpdates start (earlier ++ [event]) =
      event.step (afterUpdates start earlier) := run_concat earlier event

def Authorised (start : Session) (events : List UpdateEvent) (peer : User)
    (resourceId : String) : Prop :=
  ∃ earlier env payload, earlier ++ [.deliver env payload] <+: events ∧
    payload.resourceId = resourceId ∧
      (afterUpdates start earlier).connection.user = peer ∧
        Accepts env (afterUpdates start earlier) payload

def SentUpdates (connection : PeerConnection) (resourceId : String) : Prop :=
  ∃ reply, .mergeUpdate reply ∈ connection.sent ∧
    reply.resourceId = resourceId ∧
      match reply with
      | .updatesResponse .. | .finalUpdateMerge .. => True
      | _ => False

def Solicited (connection : PeerConnection) (payload : ResourceUpdateMsg) :
    Prop :=
  match payload with
  | .finalUpdateMerge resourceId .. | .vectorClockResponse resourceId .. =>
      SentUpdates connection resourceId
  | _ => True

theorem Authorised.mono {start : Session} {events later : List UpdateEvent}
    {peer : User} {resourceId : String}
    (hauthorised : Authorised start events peer resourceId)
    (hlater : events <+: later) : Authorised start later peer resourceId := by
  obtain ⟨earlier, env, payload, hearlier, hrest⟩ := hauthorised
  exact ⟨earlier, env, payload, hearlier.trans hlater, hrest⟩

theorem deliver_talks (env : NetworkEnv) (payload : ResourceUpdateMsg)
    (session : Session) :
    Talks (Answers payload) session.connection
      (receive env (.mergeUpdate payload) session).connection := by
  have hrun : Talks (Answers payload) session.connection
      ((processResourceUpdateMessage env payload).run session).2.connection :=
    (processResourceUpdateMessage_talks env payload).run
      (fun _ => Talks.refl _) (fun _ _ _ => Talks.trans) session
  exact ⟨by rw [receive_user]; exact hrun.user_eq,
    by rw [receive_sent]; exact hrun.sent⟩

theorem step_user (event : UpdateEvent) (session : Session) :
    (event.step session).connection.user = session.connection.user := by
  cases event with
  | deliver env payload => exact (deliver_talks env payload session).user_eq
  | elsewhere repo => rfl

theorem deliver_unchanged {env : NetworkEnv} {payload : ResourceUpdateMsg}
    (hrefused : ¬Accepts env session payload)
    (htoken : match payload with
      | .stateVectorRequest .. | .updatesResponse .. => True
      | _ => False) :
    (receive env (.mergeUpdate payload) session).repo = session.repo ∧
      (receive env (.mergeUpdate payload) session).connection.sent =
        session.connection.sent := by
  have hsame := refused_unchanged hrefused htoken
  rw [receive_repo, receive_sent]
  exact ⟨congrArg Session.repo hsame,
    congrArg (fun session => session.connection.sent) hsame⟩

theorem sentUpdates_step {env : NetworkEnv} {payload : ResourceUpdateMsg} {resourceId : String}
    (hsent : SentUpdates (receive env (.mergeUpdate payload) session).connection resourceId) :
    SentUpdates session.connection resourceId ∨
      payload.resourceId = resourceId ∧ Accepts env session payload := by
  obtain ⟨reply, hreply, hid, hkind⟩ := hsent
  obtain ⟨new, hnew, hanswers⟩ := (deliver_talks env payload session).sent
  rw [hnew] at hreply
  rcases List.mem_append.mp hreply with hold | hadded
  · exact .inl ⟨reply, hold, hid, hkind⟩
  · obtain ⟨answer, hanswer, hsame, hfollows⟩ := hanswers _ hadded
    cases hanswer
    refine .inr ⟨hsame.symm.trans hid, by_contra fun hrefused => ?_⟩
    cases payload with
    | finalUpdateMerge => cases reply <;> trivial
    | vectorClockResponse => cases reply <;> trivial
    | stateVectorRequest | updatesResponse =>
        have hempty := (deliver_unchanged hrefused trivial).2
        rw [hnew, List.append_right_eq_self] at hempty
        rw [hempty] at hadded
        cases hadded

/-- In a run in which the messages without a token come only after this end
sent its updates, a message changes the store only once the authority to update
its resource was checked for the peer. -/
theorem remote_writes_authorised (start : Session) (events : List UpdateEvent)
    (hstart : ∀ resourceId, ¬SentUpdates start.connection resourceId)
    (hsolicited : ∀ earlier env payload,
      earlier ++ [.deliver env payload] <+: events →
        Solicited (afterUpdates start earlier).connection payload) :
    ∀ earlier env payload, earlier ++ [.deliver env payload] <+: events →
      ¬SameResourceTables (afterUpdates start earlier).repo
          (afterUpdates start (earlier ++ [.deliver env payload])).repo →
        Authorised start (earlier ++ [.deliver env payload])
          (afterUpdates start earlier).connection.user payload.resourceId := by
  have hinvariant : ∀ earlier, earlier <+: events → ∀ resourceId,
      SentUpdates (afterUpdates start earlier).connection resourceId →
        Authorised start earlier (afterUpdates start earlier).connection.user
          resourceId := by
    refine @run_invariant _ _ _ _ _
      (fun earlier (session : Session) => ∀ resourceId,
        SentUpdates session.connection resourceId →
          Authorised start earlier session.connection.user resourceId)
      (fun resourceId hsent => absurd hsent (hstart resourceId)) ?_
    intro earlier event hearlier ih resourceId hsent
    rw [step_user]
    cases event with
    | elsewhere repo =>
        exact (ih resourceId hsent).mono (List.prefix_append _ _)
    | deliver env payload =>
        rcases sentUpdates_step hsent with hold | ⟨hid, haccepts⟩
        · exact (ih resourceId hold).mono (List.prefix_append _ _)
        · exact ⟨earlier, env, payload, List.prefix_rfl, hid, rfl, haccepts⟩
  intro earlier env payload hearlier hchanged
  have hsol := hsolicited earlier env payload hearlier
  have hbefore := hinvariant earlier
    ((List.prefix_append _ _).trans hearlier) payload.resourceId
  cases payload with
  | finalUpdateMerge | vectorClockResponse =>
      exact (hbefore hsol).mono (List.prefix_append _ _)
  | stateVectorRequest | updatesResponse =>
      refine ⟨earlier, env, _, List.prefix_rfl, rfl, rfl,
        by_contra fun hrefused => hchanged ?_⟩
      have hsame := (deliver_unchanged hrefused trivial).1
      rw [afterUpdates_concat]
      exact ⟨congrArg _ hsame, congrArg _ hsame, congrArg _ hsame,
        congrArg _ hsame⟩

def askNote : ResourceUpdateMsg :=
  .stateVectorRequest "a" (.encoded (.object
    [("main_doc", DecryptedResource.documentEntry [] [0])])) "grant-a"

def mergeNote : ResourceUpdateMsg :=
  .finalUpdateMerge "a" (.encoded (.object
    [("main_doc", DecryptedResource.documentEntry [2] [])])) []
    [.prepareShareRecord "share-P" 0 "a" "R" "P" .write "grant-a" "grant-a"] []

theorem askNote_answered :
    (afterUpdates ownerSession [.deliver ownerEnv askNote]).connection.sent =
      [.mergeUpdate (.updatesResponse "a" (.encoded (.object
        [("main_doc", DecryptedResource.documentEntry [1] [1])])) "own-a")] := by
  rfl

theorem ask_then_merge_solicited (earlier : List UpdateEvent) (env : NetworkEnv)
    (payload : ResourceUpdateMsg)
    (hearlier : earlier ++ [.deliver env payload] <+:
      [.deliver ownerEnv askNote, .deliver ownerEnv mergeNote]) :
    Solicited (afterUpdates ownerSession earlier).connection payload := by
  rcases earlier with _ | ⟨first, _ | ⟨second, rest⟩⟩
  · simp only [List.nil_append, List.cons_prefix_cons, UpdateEvent.deliver.injEq]
      at hearlier
    exact hearlier.1.2 ▸ trivial
  · simp only [List.cons_append, List.nil_append, List.cons_prefix_cons,
      UpdateEvent.deliver.injEq] at hearlier
    obtain ⟨rfl, ⟨_, rfl⟩, _⟩ := hearlier
    exact ⟨_, askNote_answered ▸ List.mem_singleton_self _, rfl, trivial⟩
  · simp at hearlier

theorem remote_writes_authorised_ask_then_merge :
    Authorised ownerSession
      [.deliver ownerEnv askNote, .deliver ownerEnv mergeNote]
      (afterUpdates ownerSession [.deliver ownerEnv askNote]).connection.user
      "a" :=
  remote_writes_authorised ownerSession
    [.deliver ownerEnv askNote, .deliver ownerEnv mergeNote]
    (fun _ ⟨_, hreply, _⟩ => List.not_mem_nil hreply) ask_then_merge_solicited
    [.deliver ownerEnv askNote] ownerEnv mergeNote List.prefix_rfl
    fun hsame => absurd hsame.shareRecords_eq (by decide +kernel)

/-- Sent at once, with no token shown before, the merge is stored all the same. -/
theorem unsolicited_merge_stored :
    ¬SameResourceTables ownerSession.repo
        (afterUpdates ownerSession [.deliver ownerEnv mergeNote]).repo ∧
      ¬Authorised ownerSession [.deliver ownerEnv mergeNote]
        peerConnection.user "a" := by
  refine ⟨fun hsame => absurd hsame.shareRecords_eq (by decide +kernel), ?_⟩
  rintro ⟨earlier, env, payload, hearlier, _, _, _, haccepts⟩
  rcases earlier with _ | ⟨first, rest⟩
  · simp only [List.nil_append, List.cons_prefix_cons, UpdateEvent.deliver.injEq]
      at hearlier
    obtain ⟨⟨_, rfl⟩, _⟩ := hearlier
    exact haccepts
  · simp at hearlier

end Osvauld.Network
