import Osvauld.Network.P2P.UserSyncSession

namespace Osvauld.Network

open Osvauld.Core Data Persistance Services

/-! How often the two ends enter the phases of a synchronization of users. -/

theorem answers_congr {isInitiator : Bool} {missing missing' : List String}
    {announcement : Announcement}
    (hother : announcement = .recipients → missing = missing') :
    answers isInitiator missing announcement = answers isInitiator missing' announcement := by
  cases announcement with
  | recipients => rw [hother rfl]
  | _ => rfl

namespace SyncEnd

variable {isInitiator : Bool} {opening : List Announcement}
variable {self other : SyncEnd} {env : NetworkEnv} {index : Nat} {message : Message}

theorem announced_append (first second : List Message) :
    announced (first ++ second) = announced first ++ announced second :=
  List.filterMap_append

theorem Accounts.elsewhere (haccounts : self.Accounts isInitiator opening)
    (repo : RepositoryContext) : (self.elsewhere repo).Accounts isInitiator opening :=
  ⟨haccounts.initiates, haccounts.kind, haccounts.told⟩

def Succeeds (env : NetworkEnv) (message : Message) (self : SyncEnd) : Prop :=
  ((processMessage env message).run self.session).1 = .ok .unit

theorem Accounts.quietly (haccounts : self.Accounts isInitiator opening) {after : SyncEnd}
    (hsession : after.session = receive env message self.session)
    (hsilent : Silent self.session.connection
      ((processMessage env message).run self.session).2.connection)
    (htold : after.told = self.told ++ self.tell after.session)
    (hdone : announced after.done = announced self.done) :
    after.Accounts isInitiator opening := by
  have hplays : after.session.connection.Plays
      ⟨isInitiator, missingResources self.session.connection⟩ := by
    rw [hsession]
    exact receive_plays (hsilent.plays ⟨haccounts.initiates, haccounts.kind, rfl⟩)
  refine ⟨hplays.isInitiator, hplays.kind, ?_⟩
  rw [htold, announced_append, receive_announces hsilent.announces hsession, List.append_nil,
    hdone, missing, hplays.missing, haccounts.told]
  rfl

theorem Accounts.answering (haccounts : self.Accounts isInitiator opening)
    {announcement : Announcement} (hmessage : announcement? message = some announcement)
    (hforeign : announcement ≠ .foreign)
    (hmanifest : BringsManifest announcement → .recipients ∉ announced self.done)
    (hsucceeds : self.Succeeds env message) {after : SyncEnd}
    (hsession : after.session = receive env message self.session)
    (htold : after.told = self.told ++ self.tell after.session)
    (hdone : after.done = self.done ++ [message]) :
    after.Accounts isInitiator opening := by
  have hplays : self.session.connection.Plays
      ⟨isInitiator, missingResources self.session.connection⟩ :=
    ⟨haccounts.initiates, haccounts.kind, rfl⟩
  obtain ⟨⟨missing', hplays', hsame⟩, hannounces⟩ := processMessage_tells env hmessage
    hforeign hplays (Prod.ext hsucceeds rfl)
  have hafter := receive_plays hplays'
  rw [← hsession] at hafter
  have hmissing : after.missing = missing'.getD [] := by
    rw [missing, hafter.missing]
  have hanswers : ∀ other ∈ announced self.done ++ [announcement],
      answers isInitiator self.missing other = answers isInitiator after.missing other := by
    intro other hother
    refine answers_congr fun hrecipients => ?_
    by_cases hbrings : BringsManifest announcement
    · rcases List.mem_append.mp hother with hdone | hlast
      · exact absurd (hrecipients ▸ hdone) (hmanifest hbrings)
      · rw [List.mem_singleton.mp hlast] at hrecipients
        rcases hbrings with rfl | rfl <;> cases hrecipients
    · rw [hmissing, hsame hbrings]
      rfl
  refine ⟨hafter.isInitiator, hafter.kind, ?_⟩
  have hlast : announced [message] = [announcement] := List.filterMap_cons_some hmessage
  rw [htold, announced_append, receive_announces hannounces hsession, haccounts.told, hdone,
    announced_append, hlast, List.append_assoc]
  congr 1
  calc (announced self.done).flatMap (answers isInitiator self.missing) ++
        answers isInitiator self.missing announcement
      = (announced self.done ++ [announcement]).flatMap (answers isInitiator self.missing) := by
        rw [List.flatMap_append, List.flatMap_singleton]
    _ = (announced self.done ++ [announcement]).flatMap (answers isInitiator after.missing) :=
        List.flatMap_congr hanswers

theorem Accounts.deliver (haccounts : self.Accounts isInitiator opening)
    (hmessage : self.inbox[index]? = some message)
    (hforeign : announcement? message ≠ some .foreign)
    (hmanifest : ∀ announcement, announcement? message = some announcement →
      BringsManifest announcement → .recipients ∉ announced self.done)
    (hfails : ¬ self.Succeeds env message → MayFail isInitiator message) :
    (self.deliver env index other).1.Accounts isInitiator opening := by
  unfold SyncEnd.deliver
  rw [hmessage]
  by_cases hsucceeds : self.Succeeds env message
  · have hdone : (if ((processMessage env message).run self.session).1 = .ok .unit then
        self.done ++ [message] else self.done) = self.done ++ [message] := if_pos hsucceeds
    cases hannouncement : announcement? message with
    | some announcement =>
        refine haccounts.answering hannouncement ?_ (hmanifest _ hannouncement) hsucceeds
          rfl rfl hdone
        rintro rfl
        exact hforeign hannouncement
    | none =>
        have hsilent := run_keeps (Silent.processMessage env (.inl hannouncement))
          Silent.refl Silent.trans self.session
        refine haccounts.quietly rfl hsilent rfl ((congrArg announced hdone).trans ?_)
        have hlast : announced [message] = [] := List.filterMap_cons_none hannouncement
        rw [announced_append, hlast, List.append_nil]
  · have hdone : (if ((processMessage env message).run self.session).1 = .ok .unit then
        self.done ++ [message] else self.done) = self.done := if_neg hsucceeds
    cases hrun : (processMessage env message).run self.session with
    | mk outcome session' =>
        cases outcome with
        | ok value => exact absurd (congrArg Prod.fst hrun) hsucceeds
        | error error =>
            have hsilent := silent_of_mayFail (hfails hsucceeds) hrun
            refine haccounts.quietly rfl (by rwa [hrun]) rfl ?_
            exact congrArg announced hdone

theorem Hears.deliver (hhears : self.Hears other) :
    (self.deliver env index other).1.Hears (self.deliver env index other).2 := by
  unfold SyncEnd.deliver
  cases hmessage : self.inbox[index]? with
  | none => exact hhears
  | some message =>
      obtain ⟨hindex, hget⟩ := List.getElem?_eq_some_iff.mp hmessage
      have hinbox : self.inbox.Perm (message :: self.inbox.eraseIdx index) :=
        hget ▸ (List.getElem_cons_eraseIdx_perm hindex).symm
      refine List.Perm.trans hhears ((hinbox.append_right _).trans ?_)
      rw [List.cons_append]
      refine List.perm_middle.symm.trans (List.Perm.append_left _ ?_)
      dsimp only
      split
      · rw [List.append_assoc]
        exact List.perm_middle.symm
      · rw [← List.append_assoc]
        exact List.perm_append_singleton message (self.done ++ self.failed) |>.symm

theorem Hears.told (hhears : other.Hears self) :
    (self.deliver env index other).2.Hears (self.deliver env index other).1 := by
  unfold SyncEnd.deliver
  cases self.inbox[index]? with
  | none => exact hhears
  | some message =>
      refine (hhears.append_right _).trans ?_
      rw [List.append_assoc]
      refine (List.perm_append_comm.append_left _).trans ?_
      rw [← List.append_assoc]
      exact .refl _

end SyncEnd

def tally (messages : List Message) (announcement : Announcement) : Nat :=
  (announced messages).count announcement

structure SyncPair.Balanced (pair : SyncPair) : Prop where
  initiator : pair.initiator.Accounts true [.manifestRequest]
  responder : pair.responder.Accounts false []
  initiatorHears : pair.initiator.Hears pair.responder
  responderHears : pair.responder.Hears pair.initiator

structure InitiatorTells (told done : Announcement → Nat) : Prop where
  requests : told .manifestRequest = 1
  responses : told .manifestResponse = done .manifestRequest
  acks : told .manifestAck = done .manifestResponse
  users : told .users = done .manifestAck + done .users
  usersAcks : told .usersAck = done .users
  folders : told .folders = done .usersAck
  recipients : told .recipients = done .folders
  foreign : told .foreign = 0

structure ResponderTells (told done : Announcement → Nat) : Prop where
  requests : told .manifestRequest = 0
  responses : told .manifestResponse = done .manifestRequest
  acks : told .manifestAck = done .manifestResponse
  users : told .users = done .manifestAck
  usersAcks : told .usersAck = done .users
  folders : told .folders = done .usersAck + done .folders
  recipients : told .recipients = done .recipients
  foreign : told .foreign = 0

variable {self : SyncEnd}

theorem SyncEnd.Accounts.initiatorTells (haccounts : self.Accounts true [.manifestRequest]) :
    InitiatorTells (tally self.told) (tally self.done) := by
  constructor <;> refine (haccounts.count_told rfl).trans ?_ <;> simp [causes, tally]

theorem SyncEnd.Accounts.responderTells (haccounts : self.Accounts false []) :
    ResponderTells (tally self.told) (tally self.done) := by
  constructor <;> refine (haccounts.count_told rfl).trans ?_ <;> simp [causes, tally]

theorem SyncEnd.Hears.tally {other : SyncEnd} (hhears : self.Hears other)
    (announcement : Announcement) :
    Network.tally other.told announcement = Network.tally self.inbox announcement +
      (Network.tally self.done announcement + Network.tally self.failed announcement) :=
  hhears.count_told announcement

theorem tally_pos {messages : List Message} {message : Message}
    {announcement : Announcement} (hmem : message ∈ messages)
    (hmessage : announcement? message = some announcement) :
    0 < tally messages announcement :=
  List.count_pos_iff.mpr (List.mem_filterMap.mpr ⟨message, hmem, hmessage⟩)

theorem no_recipients {told done told' done' : Announcement → Nat}
    (hinitiator : InitiatorTells told done) (hresponder : ResponderTells told' done')
    (hheard : ∀ announcement, done announcement ≤ told' announcement)
    (hheard' : ∀ announcement, done' announcement ≤ told announcement)
    (hnone : done .manifestResponse = 0) : done .recipients = 0 ∧ done' .recipients = 0 := by
  obtain ⟨-, hresponses, hacks, husers, husersAcks, hfolders, hrecipients, -⟩ := hinitiator
  obtain ⟨hrequests, -, hacks', husers', husersAcks', hfolders', hrecipients', -⟩ := hresponder
  have hack : done' .manifestAck = 0 := by
    have := hheard' .manifestAck
    omega
  have hack' : done .manifestAck = 0 := by
    have := hheard .manifestRequest
    have := hheard' .manifestResponse
    have := hheard .manifestAck
    omega
  have huser : done .users = 0 := by
    have := hheard .users
    omega
  have huser' : done' .users = 0 := by
    have := hheard' .users
    omega
  have husersAck : done .usersAck = 0 := by
    have := hheard .usersAck
    omega
  have hfolder' : done' .folders = 0 := by
    have := hheard' .folders
    omega
  have hfolder : done .folders = 0 := by
    have := hheard' .usersAck
    have := hheard .folders
    omega
  have := hheard .recipients
  have := hheard' .recipients
  omega

namespace SyncPair.Balanced

variable {pair : SyncPair}

theorem heard (hbalanced : pair.Balanced) (announcement : Announcement) :
    tally pair.initiator.done announcement ≤ tally pair.responder.told announcement ∧
      tally pair.responder.done announcement ≤ tally pair.initiator.told announcement := by
  have hinitiator := hbalanced.initiatorHears.tally announcement
  have hresponder := hbalanced.responderHears.tally announcement
  omega

variable (hbalanced : pair.Balanced)

include hbalanced

theorem not_foreign :
    (∀ message ∈ pair.initiator.inbox, announcement? message ≠ some .foreign) ∧
      ∀ message ∈ pair.responder.inbox, announcement? message ≠ some .foreign := by
  refine ⟨fun message hmem hforeign => ?_, fun message hmem hforeign => ?_⟩
  · have hpos := tally_pos hmem hforeign
    have hnone := hbalanced.responder.responderTells.foreign
    have hheard := hbalanced.initiatorHears.tally .foreign
    omega
  · have hpos := tally_pos hmem hforeign
    have hnone := hbalanced.initiator.initiatorTells.foreign
    have hheard := hbalanced.responderHears.tally .foreign
    omega

theorem not_compared {message : Message} {announcement : Announcement}
    (hmem : message ∈ pair.initiator.inbox ∨ message ∈ pair.responder.inbox)
    (hmessage : announcement? message = some announcement)
    (hbrings : BringsManifest announcement) :
    tally pair.initiator.done .manifestResponse = 0 := by
  have hinitiator := hbalanced.initiator.initiatorTells
  have hresponder := hbalanced.responder.responderTells
  have hrequests := hinitiator.requests
  have hrequests' := hresponder.requests
  have hresponses := hinitiator.responses
  have hresponses' := hresponder.responses
  have hrequest := hbalanced.initiatorHears.tally .manifestRequest
  have hrequest' := hbalanced.responderHears.tally .manifestRequest
  have hresponse := hbalanced.initiatorHears.tally .manifestResponse
  have hresponse' := hbalanced.responderHears.tally .manifestResponse
  rcases hmem with hmem | hmem
  · have hpos := tally_pos hmem hmessage
    rcases hbrings with rfl | rfl <;> omega
  · have hpos := tally_pos hmem hmessage
    rcases hbrings with rfl | rfl <;> omega

theorem not_recipients {message : Message} {announcement : Announcement}
    (hmem : message ∈ pair.initiator.inbox ∨ message ∈ pair.responder.inbox)
    (hmessage : announcement? message = some announcement)
    (hbrings : BringsManifest announcement) :
    .recipients ∉ announced pair.initiator.done ∧
      .recipients ∉ announced pair.responder.done := by
  obtain ⟨hinitiator, hresponder⟩ := no_recipients hbalanced.initiator.initiatorTells
    hbalanced.responder.responderTells (fun announcement => (hbalanced.heard announcement).1)
    (fun announcement => (hbalanced.heard announcement).2)
    (hbalanced.not_compared hmem hmessage hbrings)
  exact ⟨List.count_eq_zero.mp hinitiator, List.count_eq_zero.mp hresponder⟩

end SyncPair.Balanced

/-- Nothing failed that would have had to be answered, unless the responder could
not deal with the folders it was sent. -/
structure SyncPair.Undisturbed (pair : SyncPair) : Prop where
  initiator : ∀ message ∈ pair.initiator.failed, SyncEnd.MayFail true message
  responder : ∀ message ∈ pair.responder.failed, SyncEnd.MayFail false message

namespace SyncEnd

variable {isInitiator : Bool} {opening : List Announcement}
variable {self other : SyncEnd} {env : NetworkEnv} {index : Nat} {message : Message}

theorem failed_subset : self.failed ⊆ (self.deliver env index other).1.failed := by
  unfold SyncEnd.deliver
  split
  · exact List.Subset.refl _
  · dsimp only
    split
    · exact List.Subset.refl _
    · exact List.subset_append_left _ _

theorem mem_failed (hmessage : self.inbox[index]? = some message)
    (hfails : ¬ self.Succeeds env message) :
    message ∈ (self.deliver env index other).1.failed := by
  have hfailed : (self.deliver env index other).1.failed = self.failed ++ [message] := by
    unfold SyncEnd.deliver
    rw [hmessage]
    exact if_neg hfails
  rw [hfailed]
  exact List.mem_append_right _ List.mem_cons_self

theorem deliver_other_failed : (self.deliver env index other).2.failed = other.failed := by
  unfold SyncEnd.deliver
  split <;> rfl

theorem Accounts.told_to (haccounts : other.Accounts isInitiator opening) :
    (self.deliver env index other).2.Accounts isInitiator opening := by
  unfold SyncEnd.deliver
  split
  · exact haccounts
  · exact ⟨haccounts.initiates, haccounts.kind, haccounts.told⟩

theorem Accounts.delivered (haccounts : self.Accounts isInitiator opening)
    (hforeign : ∀ message ∈ self.inbox, announcement? message ≠ some .foreign)
    (hmanifest : ∀ message ∈ self.inbox, ∀ announcement,
      announcement? message = some announcement → BringsManifest announcement →
        .recipients ∉ announced self.done)
    (hfailed : ∀ message ∈ (self.deliver env index other).1.failed,
      MayFail isInitiator message) :
    (self.deliver env index other).1.Accounts isInitiator opening := by
  cases hmessage : self.inbox[index]? with
  | none =>
      unfold SyncEnd.deliver
      rwa [hmessage]
  | some message =>
      have hmem := List.mem_of_getElem? hmessage
      exact haccounts.deliver hmessage (hforeign message hmem) (hmanifest message hmem)
        fun hfails => hfailed message (mem_failed hmessage hfails)

end SyncEnd

namespace SyncPair

variable {pair : SyncPair} {event : SyncEvent}

theorem Undisturbed.of_step (hundisturbed : (event.step pair).Undisturbed) :
    pair.Undisturbed := by
  obtain ⟨hinitiator, hresponder⟩ := hundisturbed
  cases event with
  | deliver side env index =>
      cases side with
      | initiator =>
          refine ⟨fun message hmem => hinitiator message (SyncEnd.failed_subset hmem), ?_⟩
          intro message hmem
          refine hresponder message ?_
          rwa [← @SyncEnd.deliver_other_failed pair.initiator _ env index] at hmem
      | responder =>
          refine ⟨?_, fun message hmem => hresponder message (SyncEnd.failed_subset hmem)⟩
          intro message hmem
          refine hinitiator message ?_
          rwa [← @SyncEnd.deliver_other_failed pair.responder _ env index] at hmem
  | elsewhere side repo => cases side <;> exact ⟨hinitiator, hresponder⟩

theorem Balanced.step (hbalanced : pair.Balanced)
    (hundisturbed : (event.step pair).Undisturbed) : (event.step pair).Balanced := by
  obtain ⟨hinitiator, hresponder⟩ := hundisturbed
  obtain ⟨hknown, hknown'⟩ := hbalanced.not_foreign
  cases event with
  | deliver side env index =>
      cases side with
      | initiator =>
          have hmanifest := fun message hmem announcement hmessage hbrings =>
            (@not_recipients pair hbalanced message announcement (.inl hmem) hmessage
              hbrings).1
          exact
            { initiator := hbalanced.initiator.delivered hknown hmanifest hinitiator
              responder := hbalanced.responder.told_to
              initiatorHears := hbalanced.initiatorHears.deliver
              responderHears := hbalanced.responderHears.told }
      | responder =>
          have hmanifest := fun message hmem announcement hmessage hbrings =>
            (@not_recipients pair hbalanced message announcement (.inr hmem) hmessage
              hbrings).2
          exact
            { initiator := hbalanced.initiator.told_to
              responder := hbalanced.responder.delivered hknown' hmanifest hresponder
              initiatorHears := hbalanced.initiatorHears.told
              responderHears := hbalanced.responderHears.deliver }
  | elsewhere side repo =>
      cases side with
      | initiator => exact { hbalanced with initiator := hbalanced.initiator.elsewhere repo }
      | responder => exact { hbalanced with responder := hbalanced.responder.elsewhere repo }

end SyncPair

theorem startSync_balanced {env : NetworkEnv} {initiator responder : Session}
    (hstart : CanStart env initiator responder) :
    (startSync env initiator responder).Balanced := by
  have hplays : initiator.connection.Plays ⟨true, missingResources initiator.connection⟩ :=
    ⟨hstart.initiates, hstart.initiatorKind, rfl⟩
  obtain ⟨hafter, messages, hsent, hannounced⟩ :=
    startUserNetworkSync_tells env rfl initiator _ _ hplays (Prod.ext hstart.asks rfl)
  have htold : (startSync env initiator responder).initiator.told = messages := by
    change List.drop _ _ = _
    rw [hsent, List.drop_left]
  exact
    { initiator := ⟨hafter.isInitiator, hafter.kind, by rw [htold]; exact hannounced⟩
      responder := ⟨hstart.responds, hstart.responderKind, rfl⟩
      initiatorHears := .refl _
      responderHears := by
        change List.Perm _ (_ ++ ([] ++ []))
        rw [List.append_nil, List.append_nil]
        exact .refl _ }

theorem afterSync_balanced {start : SyncPair} {events : List SyncEvent}
    (hstart : start.Balanced) (hundisturbed : (afterSync start events).Undisturbed) :
    (afterSync start events).Balanced := by
  induction events using List.reverseRecOn with
  | nil => exact hstart
  | append_singleton earlier event ih =>
      rw [afterSync, run_concat] at hundisturbed ⊢
      exact (ih hundisturbed.of_step).step hundisturbed

def sentResources (messages : List Message) : List String :=
  messages.filterMap fun
    | .resourceAdditionRequest payload => some payload.resource.id
    | _ => none

def Announcement.resource? : Announcement → Option String
  | .resource resourceId => some resourceId
  | _ => none

theorem sentResources_eq (messages : List Message) :
    sentResources messages = (announced messages).filterMap Announcement.resource? := by
  rw [sentResources, announced, List.filterMap_filterMap]
  refine List.filterMap_congr fun message _ => ?_
  cases message with
  | userManifestPayload payload => cases payload <;> rfl
  | folderSync payload => cases payload <;> rfl
  | _ => rfl

theorem resources_answered (isInitiator : Bool) (missing : List String)
    (announcements : List Announcement) :
    (announcements.flatMap (answers isInitiator missing)).filterMap Announcement.resource? =
      (List.replicate (announcements.count .recipients) missing).flatten := by
  have hmissing : (missing.map Announcement.resource).filterMap Announcement.resource? =
      missing := by
    rw [List.filterMap_map]
    exact List.filterMap_some
  induction announcements with
  | nil => rfl
  | cons announcement rest ih =>
      rw [List.flatMap_cons, List.filterMap_append, ih]
      cases announcement with
      | recipients =>
          rw [List.count_cons_self, List.replicate_succ, List.flatten_cons]
          congr 1
          cases isInitiator with
          | true => exact hmissing
          | false => exact (List.filterMap_cons_none rfl).trans hmissing
      | _ => cases isInitiator <;> rfl

/-- An end gets to the folders, their recipients and the resources once each, and
sends once what it knows the other end to lack. -/
structure SyncEnd.EntersOnce (mine : SyncEnd) : Prop where
  folders : tally mine.told .folders = 1
  recipients : tally mine.told .recipients = 1
  resources : tally mine.done .recipients = 1
  sent : (sentResources mine.told).Perm mine.missing

theorem SyncEnd.Accounts.sentResources {isInitiator : Bool} {opening : List Announcement}
    (haccounts : self.Accounts isInitiator opening)
    (hopening : opening.filterMap Announcement.resource? = []) :
    Network.sentResources self.told =
      (List.replicate (tally self.done .recipients) self.missing).flatten := by
  rw [sentResources_eq, haccounts.told, List.filterMap_append, hopening, List.nil_append]
  exact resources_answered isInitiator self.missing (announced self.done)

namespace SyncPair

structure Complete (pair : SyncPair) : Prop where
  initiator : pair.initiator.inbox = []
  responder : pair.responder.inbox = []

def EachPhaseOnce (pair : SyncPair) : Prop :=
  pair.initiator.EntersOnce ∧ pair.responder.EntersOnce

def FoldersRefused (pair : SyncPair) : Prop :=
  ∃ message ∈ pair.responder.failed, announcement? message = some .folders

variable {pair : SyncPair}

theorem Undisturbed.tally_eq_zero (hundisturbed : pair.Undisturbed)
    {announcement : Announcement} (hphase : announcement.isResource = false) :
    tally pair.initiator.failed announcement = 0 ∧
      (announcement ≠ .folders → tally pair.responder.failed announcement = 0) := by
  have hnone {isInitiator : Bool} {messages : List Message}
      (hmayFail : ∀ message ∈ messages, SyncEnd.MayFail isInitiator message)
      (hother : isInitiator = false → announcement ≠ .folders) :
      tally messages announcement = 0 := by
    refine List.count_eq_zero.mpr fun hmem => ?_
    obtain ⟨message, hmessage, heq⟩ := List.mem_filterMap.mp hmem
    rcases hmayFail message hmessage with hnone | ⟨resourceId, hresource⟩ | ⟨hend, hfolders⟩
    · rw [heq] at hnone
      cases hnone
    · cases heq.symm.trans hresource
      cases hphase
    · cases heq.symm.trans hfolders
      exact hother hend rfl
  exact ⟨hnone hundisturbed.initiator nofun, fun hother =>
    hnone hundisturbed.responder fun _ => hother⟩

/-- Everything that follows the folders of the initiator happens once, and as
often again as the responder has answered them. -/
structure Repeats (extra : Nat) (pair : SyncPair) : Prop where
  folders : tally pair.initiator.told .folders = 1
  folders' : tally pair.responder.told .folders = 1 + extra
  recipients : tally pair.initiator.told .recipients = 1 + extra
  recipients' : tally pair.responder.told .recipients = 1 + extra
  resources : tally pair.initiator.done .recipients = 1 + extra
  resources' : tally pair.responder.done .recipients = 1 + extra

theorem Balanced.repeats (hbalanced : pair.Balanced) (hundisturbed : pair.Undisturbed)
    (hcomplete : pair.Complete) :
    pair.Repeats (tally pair.responder.done .folders) ∧
      tally pair.responder.done .folders + tally pair.responder.failed .folders = 1 := by
  obtain ⟨hrequests, hresponses, hacks, husers, husersAcks, hfolders, hrecipients, -⟩ :=
    hbalanced.initiator.initiatorTells
  obtain ⟨hrequests', hresponses', hacks', husers', husersAcks', hfolders', hrecipients', -⟩ :=
    hbalanced.responder.responderTells
  have hto (announcement : Announcement) (hphase : announcement.isResource = false) :
      tally pair.initiator.done announcement = tally pair.responder.told announcement := by
    have hnone := (hundisturbed.tally_eq_zero hphase).1
    rw [hbalanced.initiatorHears.tally, hcomplete.initiator, hnone, Nat.add_zero]
    exact (Nat.zero_add _).symm
  have hfrom (announcement : Announcement) (hphase : announcement.isResource = false)
      (hother : announcement ≠ .folders) :
      tally pair.responder.done announcement = tally pair.initiator.told announcement := by
    have hnone := (hundisturbed.tally_eq_zero hphase).2 hother
    rw [hbalanced.responderHears.tally, hcomplete.responder, hnone, Nat.add_zero]
    exact (Nat.zero_add _).symm
  have hrefused := hbalanced.responderHears.tally .folders
  rw [hcomplete.responder] at hrefused
  have hempty : tally [] .folders = 0 := rfl
  have hcompared : tally pair.initiator.done .manifestResponse = 1 := by
    rw [hto .manifestResponse rfl, hresponses', hfrom .manifestRequest rfl (by decide),
      hrequests]
  have hsent : tally pair.initiator.done .users = 1 := by
    rw [hto .users rfl, husers', hfrom .manifestAck rfl (by decide), hacks, hcompared]
  have hback : tally pair.initiator.done .manifestAck = 0 := by
    rw [hto .manifestAck rfl, hacks', hfrom .manifestResponse rfl (by decide), hresponses,
      hto .manifestRequest rfl, hrequests']
  have hsent' : tally pair.responder.done .users = 1 := by
    rw [hfrom .users rfl (by decide), husers, hback, hsent]
  have hacked : tally pair.initiator.done .usersAck = 1 := by
    rw [hto .usersAck rfl, husersAcks', hsent']
  have hacked' : tally pair.responder.done .usersAck = 1 := by
    rw [hfrom .usersAck rfl (by decide), husersAcks, hsent]
  have hfolder := hto .folders rfl
  have hrecipient := hto .recipients rfl
  have hrecipient' := hfrom .recipients rfl (by decide)
  refine ⟨⟨?_, ?_, ?_, ?_, ?_, ?_⟩, ?_⟩ <;> omega

end SyncPair

/-- Where nothing else fails, each phase is entered once when the responder has
not been able to deal with the initiator's folders, and only then. -/
theorem eachPhaseOnce_iff {env : NetworkEnv} {initiator responder : Session}
    {events : List SyncEvent} (hstart : CanStart env initiator responder)
    (hcomplete : (afterSync (startSync env initiator responder) events).Complete)
    (hundisturbed : (afterSync (startSync env initiator responder) events).Undisturbed) :
    (afterSync (startSync env initiator responder) events).EachPhaseOnce ↔
      (afterSync (startSync env initiator responder) events).FoldersRefused := by
  have hbalanced := afterSync_balanced (startSync_balanced hstart) hundisturbed
  obtain ⟨hrepeats, hrefused⟩ := hbalanced.repeats hundisturbed hcomplete
  constructor
  · intro ⟨_, honce⟩
    have hanswered := hrepeats.folders'.symm.trans honce.folders
    have hfailed : 0 < tally (afterSync (startSync env initiator responder)
        events).responder.failed .folders := by omega
    exact List.mem_filterMap.mp (List.count_pos_iff.mp hfailed)
  · rintro ⟨message, hmem, hfolders⟩
    have hfailed := tally_pos hmem hfolders
    have hanswered : tally (afterSync (startSync env initiator responder)
        events).responder.done .folders = 0 := by omega
    rw [hanswered] at hrepeats
    have hsent := hbalanced.initiator.sentResources rfl
    have hsent' := hbalanced.responder.sentResources rfl
    rw [hrepeats.resources] at hsent
    rw [hrepeats.resources'] at hsent'
    refine ⟨⟨hrepeats.folders, hrepeats.recipients, hrepeats.resources, ?_⟩,
      ⟨hrepeats.folders', hrepeats.recipients', hrepeats.resources', ?_⟩⟩
    · rw [hsent]
      simp
    · rw [hsent']
      simp

def sharerSession : Session :=
  { repo :=
      { ownerStore with
        shareRecords := ownerStore.shareRecords ++
          [.prepareShareRecord "share-P" 0 "a" "R" "P" .read "grant-a" "grant-a"]
        ucanKey := some (.sealed "R" "ucan-R") }
    connection := { peerConnection with isInitiator := true } }

def recipientEnv : NetworkEnv :=
  .tabled noteTokens (.sample "P") (.sample "dev-P" "P")

def recipientSession : Session :=
  { repo :=
      { users := [.sample "R", .sample "P"]
        devices := [.sample "dev-R" "R", .sample "dev-P" "P"]
        folders := [.sample "folder"]
        ucanKey := some (.sealed "P" "ucan-P") }
    connection :=
      .new "node-R" "dev-R" false none none (.sample "R") (.sample "dev-R" "R") }

def inTurn (rounds : Nat) : List SyncEvent :=
  (List.replicate rounds
    [.deliver .responder recipientEnv 0, .deliver .initiator ownerEnv 0]).flatten

def noteSync : SyncPair :=
  afterSync (startSync ownerEnv sharerSession recipientSession) (inTurn 12)

theorem noteSync_complete : noteSync.Complete :=
  ⟨List.length_eq_zero_iff.mp (by decide +kernel),
    List.length_eq_zero_iff.mp (by decide +kernel)⟩

theorem noteSync_failed : noteSync.initiator.failed = [] ∧ noteSync.responder.failed = [] :=
  ⟨List.length_eq_zero_iff.mp (by decide +kernel),
    List.length_eq_zero_iff.mp (by decide +kernel)⟩

theorem eachPhaseOnce_iff_noteSync : noteSync.EachPhaseOnce ↔ noteSync.FoldersRefused := by
  have hstart : CanStart ownerEnv sharerSession recipientSession :=
    ⟨rfl, rfl, rfl, rfl, by decide +kernel⟩
  have hundisturbed : noteSync.Undisturbed := by
    constructor
    · rw [noteSync_failed.1]
      exact fun message hmem => absurd hmem List.not_mem_nil
    · rw [noteSync_failed.2]
      exact fun message hmem => absurd hmem List.not_mem_nil
  exact eachPhaseOnce_iff hstart noteSync_complete hundisturbed

/-- Nothing fails, and yet the note is sent twice. -/
theorem not_eachPhaseOnce_noteSync :
    noteSync.Complete ∧ noteSync.responder.failed = [] ∧
      sentResources noteSync.initiator.told = ["a", "a"] ∧ ¬ noteSync.EachPhaseOnce := by
  refine ⟨noteSync_complete, noteSync_failed.2, by decide +kernel, fun honce => ?_⟩
  have hfolders : tally noteSync.responder.told .folders = 2 := by decide +kernel
  cases hfolders.symm.trans honce.2.folders

end Osvauld.Network
