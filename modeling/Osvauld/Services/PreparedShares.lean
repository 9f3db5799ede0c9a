import Osvauld.Persistance.NewRows
import Osvauld.Services.FolderService

namespace Osvauld.Services

open Osvauld.Core CryptoUtils Data Data.KeyedInserts Persistance

/-! What is prepared to share resources, and how it is stored. -/

structure FreshIds (supply : Nat → String) (ctx : RepositoryContext) : Prop where
  injective : Function.Injective supply
  keys : ∀ position, ctx.drawnIds ≤ position →
    supply position ∉ ctx.resourceKeys.map ResourceKey.id
  records : ∀ position, ctx.drawnIds ≤ position →
    supply position ∉ ctx.shareRecords.map ShareRecord.id
  clocks : ∀ position, ctx.drawnIds ≤ position →
    supply position ∉ ctx.vectorClocks.map ResourceVectorClockModel.id

def recordPair (record : ShareRecord) : String × String :=
  (record.resourceId, record.recipientUserId)

section Prepared

variable (env : ServiceEnv) (ctx : RepositoryContext) (currentUser : User)

/-- Whoever has a key for the resource and was given it can give the recipient one:
all that is looked up is there, the key can be encrypted for the recipient and the
token delegated. -/
def CanShare (permissions : List (String × String)) (resourceId recipientUserId : String) :
    Prop :=
  ∃ resourceKey delegator recipient newKey ucanKey owner token,
    ResourceKeyRepo.findByResourceAndUser resourceId currentUser.id ctx = .ok resourceKey ∧
    ShareRepo.findByResourceAndOperationAndUser resourceId .share currentUser.id ctx =
      .ok delegator ∧
    UserRepo.getUserById recipientUserId ctx = .ok recipient ∧
    encryptKeyWithNewPubKey env.libraries env.cert resourceKey.encryptedKey
      recipient.publicKey = .ok newKey ∧
    StoreRepo.getUcanKey ctx = .ok ucanKey ∧
    ResourceRepo.findOwnerByResourceId resourceId ctx = .ok owner ∧
    issueDelegatedResourceUcan env.libraries env.cert env.now (resolveProof ctx) env.fuel
      ucanKey delegator.ucanToken owner.ucanPubKey resourceId recipient.ucanPubKey
      permissions = some (.ok token)

def Shareable (target : String × String) : Prop :=
  ResourceKeyRepo.keyFor? ctx target.1 target.2 = none ∧
    CanShare env ctx currentUser (autoSharePermissions env target.1) target.1 target.2

def AllShareable (recipientUserId : String) (resourceIds : List String) : Prop :=
  ∀ resourceId ∈ resourceIds,
    ResourceKeyRepo.keyFor? ctx resourceId recipientUserId = none →
      CanShare env ctx currentUser (autoSharePermissions env resourceId) resourceId
        recipientUserId

structure SharesWith (target : String × String) (first last : Nat)
    (data : ResourceSharingData) : Prop where
  key : keyPair data.resourceKey = target
  record : recordPair data.shareRecord = target
  operation : data.shareRecord.operationType = .share
  sharer : data.shareRecord.sharedByUserId = currentUser.id
  recipient : userExists ctx target.2 = true
  clocks : ∀ clock ∈ data.vectorClocks,
    clock.resourceId = target.1 ∧ deviceExists ctx clock.deviceId = true
  ordered : first ≤ last
  drawnKey : Drawn env.libraries.uuid first last [data.resourceKey.id]
  drawnRecord : Drawn env.libraries.uuid first last [data.shareRecord.id]
  drawnClocks : Drawn env.libraries.uuid first last
    (data.vectorClocks.map ResourceVectorClock.id)

inductive Prepared : Nat → List (String × String) → List ResourceSharingData → Nat → Prop
  | nil {position : Nat} : Prepared position [] [] position
  | share {first middle last : Nat} {target : String × String}
      {targets : List (String × String)} {data : ResourceSharingData}
      {others : List ResourceSharingData} :
      Shareable env ctx currentUser target →
      SharesWith env ctx currentUser target first middle data →
      Prepared middle targets others last →
      Prepared first (target :: targets) (data :: others) last
  | skip {first middle last : Nat} {target : String × String}
      {targets : List (String × String)} {others : List ResourceSharingData} :
      ¬ Shareable env ctx currentUser target → first ≤ middle →
      Prepared middle targets others last →
      Prepared first (target :: targets) others last

end Prepared

section Outcomes

variable {env : ServiceEnv} {ctx : RepositoryContext} {currentUser : User}

theorem query_andThen {α β : Type} (read : RepositoryContext → Except RepositoryError α)
    (continuation : α → Service β) :
    (query read >>= continuation).run ctx =
      match read ctx with
      | .ok value => (continuation value).run ctx
      | .error error => (.error (.repository error), ctx) := by
  rw [Program.run_bind, query, Program.run_read]
  cases read ctx <;> rfl

theorem liftCrypto_andThen {α β : Type} (result : CryptoResult α)
    (continuation : α → Service β) :
    (liftCrypto result >>= continuation).run ctx =
      match result with
      | .ok value => (continuation value).run ctx
      | .error error => (.error (.crypto error), ctx) := by
  rw [Program.run_bind, liftCrypto, Program.run_ofExcept]
  cases result <;> rfl

theorem drawId_andThen {β : Type} (continuation : String → Service β) :
    (drawId env >>= continuation).run ctx =
      (continuation (env.libraries.uuid ctx.drawnIds)).run
        { ctx with drawnIds := ctx.drawnIds + 1 } := by
  rw [Program.run_bind]
  rfl

theorem sharesWith_new (hinjective : Function.Injective env.libraries.uuid)
    {resourceId recipientUserId : String} {deviceIds : List String}
    (hrecipient : userExists ctx recipientUserId = true)
    (hdevices : ∀ deviceId ∈ deviceIds, deviceExists ctx deviceId = true)
    (newKey : PgpText) (ucanToken ucanCid : String) (first : Nat) :
    SharesWith env ctx currentUser (resourceId, recipientUserId) first
      (first + 1 + 1 + deviceIds.length)
      { resourceKey := ResourceKey.new (env.libraries.uuid first) env.now resourceId
          recipientUserId newKey false
        shareRecord := ShareRecord.prepareShareRecord (env.libraries.uuid (first + 1))
          env.now resourceId currentUser.id recipientUserId .write ucanToken ucanCid
        vectorClocks := ResourceVectorClock.createEntriesForSharing
          (fun index => env.libraries.uuid (first + 1 + 1 + index)) env.now resourceId
          deviceIds } where
  key := rfl
  record := rfl
  operation := rfl
  sharer := rfl
  recipient := hrecipient
  clocks clock hclock := by
    obtain ⟨⟨deviceId, index⟩, hmem, rfl⟩ := List.mem_map.mp hclock
    exact ⟨rfl, hdevices deviceId (List.fst_mem_of_mem_zipIdx hmem)⟩
  ordered := by omega
  drawnKey := .one le_rfl (by omega)
  drawnRecord := .one (by omega) (by omega)
  drawnClocks := by
    have hclocks := @Drawn.indices _ env.libraries.uuid (first + 1 + 1) _ hinjective deviceIds
    rw [ResourceVectorClock.createEntriesForSharing, ResourceVectorClock.createEntries,
      List.map_map]
    exact hclocks.mono (by omega) le_rfl

theorem prepareShareResource_outcome {permissions : List (String × String)}
    {resourceId recipientUserId : String}
    (hinjective : Function.Injective env.libraries.uuid)
    (hfree : ResourceKeyRepo.keyFor? ctx resourceId recipientUserId = none) :
    (CanShare env ctx currentUser permissions resourceId recipientUserId ∧
        ∃ data last,
          (prepareShareResource env recipientUserId resourceId permissions currentUser).run
              ctx = (.ok (some data), { ctx with drawnIds := last }) ∧
            SharesWith env ctx currentUser (resourceId, recipientUserId) ctx.drawnIds last
              data) ∨
      (¬ CanShare env ctx currentUser permissions resourceId recipientUserId ∧
        ∃ error last,
          (prepareShareResource env recipientUserId resourceId permissions currentUser).run
              ctx = (.error error, { ctx with drawnIds := last }) ∧ ctx.drawnIds ≤ last) := by
  have hshared : ((query (ResourceKeyRepo.findByResourceAndUser resourceId
      recipientUserId)).attempt : Service _).run ctx =
        (.ok (.error (.repository .notFound)), ctx) := by
    rw [Program.run_attempt, query, Program.run_read,
      ResourceKeyRepo.findByResourceAndUser, hfree]
    rfl
  unfold prepareShareResource
  rw [Program.run_bind, hshared, Program.andThen_ok]
  simp only [Except.isOk, Except.toBool, Bool.false_eq_true, if_false]
  rw [query_andThen]
  cases hkey : ResourceKeyRepo.findByResourceAndUser resourceId currentUser.id ctx with
  | error error =>
      refine .inr ⟨?_, _, _, rfl, le_rfl⟩
      rintro ⟨_, _, _, _, _, _, _, hfound, _⟩
      cases hkey.symm.trans hfound
  | ok resourceKey =>
  dsimp only
  rw [query_andThen]
  cases hdelegator : ShareRepo.findByResourceAndOperationAndUser resourceId .share
      currentUser.id ctx with
  | error error =>
      refine .inr ⟨?_, _, _, rfl, le_rfl⟩
      rintro ⟨_, _, _, _, _, _, _, _, hfound, _⟩
      cases hdelegator.symm.trans hfound
  | ok delegator =>
  dsimp only
  rw [query_andThen]
  cases hrecipient : UserRepo.getUserById recipientUserId ctx with
  | error error =>
      refine .inr ⟨?_, _, _, rfl, le_rfl⟩
      rintro ⟨_, _, _, _, _, _, _, _, _, hfound, _⟩
      cases hrecipient.symm.trans hfound
  | ok recipient =>
  dsimp only
  rw [liftCrypto_andThen]
  cases hnewKey : encryptKeyWithNewPubKey env.libraries env.cert resourceKey.encryptedKey
      recipient.publicKey with
  | error error =>
      refine .inr ⟨?_, _, _, rfl, le_rfl⟩
      rintro ⟨_, _, _, _, _, _, _, hkey', _, hrecipient', hfound, _⟩
      cases hkey.symm.trans hkey'
      cases hrecipient.symm.trans hrecipient'
      cases hnewKey.symm.trans hfound
  | ok newKey =>
  dsimp only
  rw [drawId_andThen, query_andThen]
  have hucanKeyRead : StoreRepo.getUcanKey { ctx with drawnIds := ctx.drawnIds + 1 } =
      StoreRepo.getUcanKey ctx := rfl
  rw [hucanKeyRead]
  cases hucanKey : StoreRepo.getUcanKey ctx with
  | error error =>
      refine .inr ⟨?_, _, _, rfl, Nat.le_succ _⟩
      rintro ⟨_, _, _, _, _, _, _, _, _, _, _, hfound, _⟩
      cases hucanKey.symm.trans hfound
  | ok ucanKey =>
  dsimp only
  rw [query_andThen]
  have hownerRead : ResourceRepo.findOwnerByResourceId resourceId
      { ctx with drawnIds := ctx.drawnIds + 1 } =
        ResourceRepo.findOwnerByResourceId resourceId ctx := rfl
  rw [hownerRead]
  cases howner : ResourceRepo.findOwnerByResourceId resourceId ctx with
  | error error =>
      refine .inr ⟨?_, _, _, rfl, Nat.le_succ _⟩
      rintro ⟨_, _, _, _, _, _, _, _, _, _, _, _, hfound, _⟩
      cases howner.symm.trans hfound
  | ok owner =>
  dsimp only
  rw [Program.run_bind, Program.run_read]
  have hproofs : resolveProof { ctx with drawnIds := ctx.drawnIds + 1 } = resolveProof ctx :=
    rfl
  rw [hproofs]
  have hfails (hdiffers : ∀ token, issueDelegatedResourceUcan env.libraries env.cert env.now
      (resolveProof ctx) env.fuel ucanKey delegator.ucanToken owner.ucanPubKey resourceId
        recipient.ucanPubKey permissions ≠ some (.ok token)) :
      ¬ CanShare env ctx currentUser permissions resourceId recipientUserId := by
    rintro ⟨_, _, _, _, _, _, token, _, hdelegator', hrecipient', _, hucanKey', howner',
      htoken⟩
    cases hdelegator.symm.trans hdelegator'
    cases hrecipient.symm.trans hrecipient'
    cases hucanKey.symm.trans hucanKey'
    cases howner.symm.trans howner'
    exact hdiffers token htoken
  cases htoken : issueDelegatedResourceUcan env.libraries env.cert env.now
      (resolveProof ctx) env.fuel ucanKey delegator.ucanToken owner.ucanPubKey resourceId
      recipient.ucanPubKey permissions with
  | none =>
      have hdiffers := hfails fun _ hfound => nomatch htoken.symm.trans hfound
      exact .inr ⟨hdiffers, _, _, rfl, Nat.le_succ _⟩
  | some result =>
  cases result with
  | error error =>
      have hdiffers := hfails fun _ hfound => nomatch htoken.symm.trans hfound
      exact .inr ⟨hdiffers, _, _, rfl, Nat.le_succ _⟩
  | ok token =>
  obtain ⟨ucanToken, ucanCid⟩ := token
  dsimp only [Except.mapError]
  rw [Program.andThen_ok, drawId_andThen, query_andThen]
  dsimp only [DeviceRepo.getDevicesByUserId]
  rw [Program.run_bind]
  refine .inl ⟨⟨_, _, _, _, _, _, _, hkey, hdelegator, hrecipient, hnewKey, hucanKey, howner,
    htoken⟩, _, _, rfl, ?_⟩
  refine sharesWith_new hinjective ?_ ?_ newKey ucanToken ucanCid ctx.drawnIds
  · obtain ⟨hmem, hid⟩ := find_eq_ok hrecipient
    exact List.any_eq_true.mpr ⟨recipient, hmem, hid⟩
  · intro deviceId hdevice
    obtain ⟨device, hmem, rfl⟩ := List.mem_map.mp hdevice
    rw [List.mem_mergeSort] at hmem
    exact List.any_eq_true.mpr ⟨device, List.mem_of_mem_filter hmem, by simp⟩

theorem SharesWith.draw {target : String × String} {drawnIds first last : Nat}
    {data : ResourceSharingData}
    (hshares : SharesWith env { ctx with drawnIds } currentUser target first last data) :
    SharesWith env ctx currentUser target first last data :=
  ⟨hshares.key, hshares.record, hshares.operation, hshares.sharer, hshares.recipient,
    hshares.clocks, hshares.ordered, hshares.drawnKey, hshares.drawnRecord,
    hshares.drawnClocks⟩

theorem prepareShareResource_at {target : String × String} (first : Nat)
    (hinjective : Function.Injective env.libraries.uuid)
    (hfree : ResourceKeyRepo.keyFor? ctx target.1 target.2 = none) :
    (Shareable env ctx currentUser target ∧ ∃ data middle,
        (prepareShareResource env target.2 target.1 (autoSharePermissions env target.1)
            currentUser).run { ctx with drawnIds := first } =
          (.ok (some data), { ctx with drawnIds := middle }) ∧
          SharesWith env ctx currentUser target first middle data) ∨
      (¬ Shareable env ctx currentUser target ∧ ∃ error middle,
        (prepareShareResource env target.2 target.1 (autoSharePermissions env target.1)
            currentUser).run { ctx with drawnIds := first } =
          (.error error, { ctx with drawnIds := middle }) ∧ first ≤ middle) := by
  have houtcome := @prepareShareResource_outcome env { ctx with drawnIds := first }
    currentUser (autoSharePermissions env target.1) target.1 target.2 hinjective hfree
  rcases houtcome with ⟨hshare, data, last, hrun, hdata⟩ | ⟨hrefused, error, last, hrun, hle⟩
  · exact .inl ⟨⟨hfree, hshare⟩, data, last, hrun, hdata.draw⟩
  · exact .inr ⟨fun hshareable => hrefused hshareable.2, error, last, hrun, hle⟩

theorem prepareForRecipients_run {resourceId : String} {recipients : List User}
    (hinjective : Function.Injective env.libraries.uuid)
    (hfree : ∀ user ∈ recipients, ResourceKeyRepo.keyFor? ctx resourceId user.id = none)
    (first : Nat) :
    ∃ data last,
      (prepareForRecipients env resourceId currentUser recipients).run
          { ctx with drawnIds := first } = (.ok data, { ctx with drawnIds := last }) ∧
        Prepared env ctx currentUser first
          (recipients.map fun user => (resourceId, user.id)) data last := by
  induction recipients generalizing first with
  | nil => exact ⟨[], first, rfl, .nil⟩
  | cons user rest ih =>
      have hrest := ih fun other hother => hfree other (List.mem_cons_of_mem _ hother)
      unfold prepareForRecipients
      rw [Program.run_bind, Program.run_attempt]
      rcases @prepareShareResource_at env ctx currentUser (resourceId, user.id) first
        hinjective (hfree user (by simp)) with
        ⟨hshare, data, middle, hrun, hdata⟩ | ⟨hrefused, error, middle, hrun, hle⟩
      · obtain ⟨others, last, hothers, hprepared⟩ := hrest middle
        rw [hrun, Program.andThen_ok, Program.run_bind, hothers]
        exact ⟨data :: others, last, rfl, .share hshare hdata hprepared⟩
      · obtain ⟨others, last, hothers, hprepared⟩ := hrest middle
        rw [hrun, Program.andThen_ok, Program.run_bind, hothers]
        exact ⟨others, last, rfl, .skip hrefused hle hprepared⟩

theorem prepareShareResource_held {permissions : List (String × String)}
    {resourceId recipientUserId : String}
    (hheld : ResourceKeyRepo.keyFor? ctx resourceId recipientUserId ≠ none) :
    (prepareShareResource env recipientUserId resourceId permissions currentUser).run ctx =
      (.ok none, ctx) := by
  obtain ⟨key, hkey⟩ := Option.ne_none_iff_exists'.mp hheld
  have hshared : ((query (ResourceKeyRepo.findByResourceAndUser resourceId
      recipientUserId)).attempt : Service _).run ctx = (.ok (.ok key), ctx) := by
    rw [Program.run_attempt, query, Program.run_read,
      ResourceKeyRepo.findByResourceAndUser, hkey]
    rfl
  unfold prepareShareResource
  rw [Program.run_bind, hshared]
  rfl

theorem prepareResources_run {recipientUserId : String} {resourceIds : List String}
    (hinjective : Function.Injective env.libraries.uuid) (first : Nat) :
    (AllShareable env ctx currentUser recipientUserId resourceIds ∧ ∃ data last,
        (prepareResources env recipientUserId currentUser resourceIds).run
            { ctx with drawnIds := first } = (.ok data, { ctx with drawnIds := last }) ∧
          Prepared env ctx currentUser first
            (resourceIds.map fun resourceId => (resourceId, recipientUserId)) data last) ∨
      (¬ AllShareable env ctx currentUser recipientUserId resourceIds ∧ ∃ error last,
        (prepareResources env recipientUserId currentUser resourceIds).run
            { ctx with drawnIds := first } = (.error error, { ctx with drawnIds := last })) := by
  induction resourceIds generalizing first with
  | nil => exact .inl ⟨by simp [AllShareable], [], first, rfl, .nil⟩
  | cons resourceId rest ih =>
      unfold prepareResources
      rw [Program.run_bind]
      have hsplit : AllShareable env ctx currentUser recipientUserId (resourceId :: rest) ↔
          (ResourceKeyRepo.keyFor? ctx resourceId recipientUserId = none →
            CanShare env ctx currentUser (autoSharePermissions env resourceId) resourceId
              recipientUserId) ∧
            AllShareable env ctx currentUser recipientUserId rest :=
        List.forall_mem_cons
      rw [hsplit]
      by_cases hfree : ResourceKeyRepo.keyFor? ctx resourceId recipientUserId = none
      · rcases @prepareShareResource_at env ctx currentUser (resourceId, recipientUserId)
          first hinjective hfree with
          ⟨hshare, data, middle, hrun, hdata⟩ | ⟨hrefused, error, middle, hrun, hle⟩
        · rw [hrun, Program.andThen_ok, Program.run_bind]
          rcases ih middle with
            ⟨hall, others, last, hothers, hprepared⟩ | ⟨hsome, error, last, herror⟩
          · rw [hothers]
            exact .inl ⟨⟨fun _ => hshare.2, hall⟩, data :: others, last, rfl,
              .share hshare hdata hprepared⟩
          · rw [herror]
            exact .inr ⟨fun hboth => hsome hboth.2, error, last, rfl⟩
        · rw [hrun]
          exact .inr ⟨fun hboth => hrefused ⟨hfree, hboth.1 hfree⟩, error, middle, rfl⟩
      · have hheld := @prepareShareResource_held env { ctx with drawnIds := first }
          currentUser (autoSharePermissions env resourceId) resourceId recipientUserId hfree
        rw [hheld, Program.andThen_ok, Program.run_bind]
        rcases ih first with
          ⟨hall, others, last, hothers, hprepared⟩ | ⟨hsome, error, last, herror⟩
        · rw [hothers]
          exact .inl ⟨⟨fun hnone => absurd hnone hfree, hall⟩, others, last, rfl,
            .skip (fun hshareable => hfree hshareable.1) le_rfl hprepared⟩
        · rw [herror]
          exact .inr ⟨fun hboth => hsome hboth.2, error, last, rfl⟩

end Outcomes

namespace Prepared

variable {env : ServiceEnv} {ctx : RepositoryContext} {currentUser : User}
variable {first last : Nat} {targets : List (String × String)}
variable {data : List ResourceSharingData}

section

variable (hprepared : Prepared env ctx currentUser first targets data last)

include hprepared

theorem ordered : first ≤ last := by
  induction hprepared with
  | nil => exact le_rfl
  | share _ hdata _ ih => exact hdata.ordered.trans ih
  | skip _ hle _ ih => exact hle.trans ih

theorem sharesWith :
    ∀ item ∈ data, ∃ target ∈ targets, Shareable env ctx currentUser target ∧
      ∃ start stop, SharesWith env ctx currentUser target start stop item := by
  induction hprepared with
  | nil => simp
  | share hshare hdata _ ih =>
      refine List.forall_mem_cons.mpr ⟨⟨_, by simp, hshare, _, _, hdata⟩, fun item hitem => ?_⟩
      obtain ⟨target, htarget, hrest⟩ := ih item hitem
      exact ⟨target, List.mem_cons_of_mem _ htarget, hrest⟩
  | skip _ _ _ ih =>
      intro item hitem
      obtain ⟨target, htarget, hrest⟩ := ih item hitem
      exact ⟨target, List.mem_cons_of_mem _ htarget, hrest⟩

theorem mem_keyPairs {target : String × String} :
    target ∈ data.map (fun item => keyPair item.resourceKey) ↔
      target ∈ targets ∧ Shareable env ctx currentUser target := by
  induction hprepared with
  | nil => simp
  | share hshare hdata _ ih =>
      rw [List.map_cons, List.mem_cons, List.mem_cons, hdata.key, ih]
      constructor
      · rintro (rfl | ⟨htarget, hother⟩)
        · exact ⟨.inl rfl, hshare⟩
        · exact ⟨.inr htarget, hother⟩
      · rintro ⟨rfl | htarget, hother⟩
        · exact .inl rfl
        · exact .inr ⟨htarget, hother⟩
  | skip hrefused _ _ ih =>
      rw [List.mem_cons, ih]
      refine ⟨fun ⟨htarget, hother⟩ => ⟨.inr htarget, hother⟩, ?_⟩
      rintro ⟨rfl | htarget, hother⟩
      · exact absurd hother hrefused
      · exact ⟨htarget, hother⟩

theorem keyPairs_of_all (hall : ∀ target ∈ targets, Shareable env ctx currentUser target) :
    data.map (fun item => keyPair item.resourceKey) = targets := by
  induction hprepared with
  | nil => rfl
  | share _ hdata _ ih =>
      rw [List.map_cons, hdata.key, ih (List.forall_mem_cons.mp hall).2]
  | skip hrefused _ _ _ => exact absurd (hall _ (by simp)) hrefused

theorem keyPairs_of_missing
    (hall : ∀ target ∈ targets, ResourceKeyRepo.keyFor? ctx target.1 target.2 = none →
      Shareable env ctx currentUser target) :
    data.map (fun item => keyPair item.resourceKey) =
      targets.filter fun target => (ResourceKeyRepo.keyFor? ctx target.1 target.2).isNone := by
  induction hprepared with
  | nil => rfl
  | share hshare hdata _ ih =>
      rw [List.map_cons, hdata.key, ih (List.forall_mem_cons.mp hall).2,
        List.filter_cons_of_pos (by simp [hshare.1])]
  | skip hrefused _ _ ih =>
      have hheld := mt (hall _ (by simp)) hrefused
      rw [ih (List.forall_mem_cons.mp hall).2,
        List.filter_cons_of_neg (by simpa using hheld)]

theorem recordPairs :
    data.map (fun item => recordPair item.shareRecord) =
      data.map fun item => keyPair item.resourceKey := by
  refine List.map_congr_left fun item hitem => ?_
  obtain ⟨target, _, _, _, _, hdata⟩ := hprepared.sharesWith item hitem
  exact hdata.record.trans hdata.key.symm

end

theorem drawn {ids : ResourceSharingData → List String}
    (hinjective : Function.Injective env.libraries.uuid)
    (hids : ∀ target start stop item, SharesWith env ctx currentUser target start stop item →
      Drawn env.libraries.uuid start stop (ids item))
    (hprepared : Prepared env ctx currentUser first targets data last) :
    Drawn env.libraries.uuid first last (data.flatMap ids) := by
  induction hprepared with
  | nil => exact .nil
  | share _ hdata hrest ih =>
      exact (hids _ _ _ _ hdata).append hinjective ih hdata.ordered hrest.ordered
  | skip _ hle _ ih => exact ih.mono hle le_rfl

section Ids

variable (hinjective : Function.Injective env.libraries.uuid)
variable (hprepared : Prepared env ctx currentUser first targets data last)

include hinjective hprepared

theorem keyIds : Drawn env.libraries.uuid first last
    ((data.map fun item => item.resourceKey).map ResourceKey.id) := by
  rw [List.map_map, List.map_eq_flatMap]
  exact hprepared.drawn hinjective fun _ _ _ _ hdata => hdata.drawnKey

theorem recordIds : Drawn env.libraries.uuid first last
    ((data.map fun item => item.shareRecord).map ShareRecord.id) := by
  rw [List.map_map, List.map_eq_flatMap]
  exact hprepared.drawn hinjective fun _ _ _ _ hdata => hdata.drawnRecord

theorem clockIds : Drawn env.libraries.uuid first last
    ((data.flatMap fun item => item.vectorClocks).map ResourceVectorClock.id) := by
  rw [List.map_flatMap]
  exact hprepared.drawn hinjective fun _ _ _ _ hdata => hdata.drawnClocks

end Ids

end Prepared

def storeShares (data : List ResourceSharingData) (ctx : RepositoryContext) :
    Except Violation RepositoryContext := do
  let ctx ← Table.resourceKeys.insertAll .doNothing
    (data.map fun item => item.resourceKey) ctx
  let ctx ← Table.shareRecords.insertAll .doNothing
    (data.map fun item => item.shareRecord) ctx
  ResourceRepo.upsertClocks (data.flatMap fun item => item.vectorClocks) ctx

section Stored

variable {ctx : RepositoryContext}

theorem keyFor?_eq_none {resourceId userId : String} :
    ResourceKeyRepo.keyFor? ctx resourceId userId = none ↔
      (resourceId, userId) ∉ ctx.resourceKeys.map keyPair := by
  simp [ResourceKeyRepo.keyFor?, keyPair]

theorem newRows_drawn {Row : Type} {id : Row → String} {supply : Nat → String}
    {first last : Nat} {rows batch : List Row}
    (hdrawn : Drawn supply first last (batch.map id))
    (hfree : ∀ position, first ≤ position → supply position ∉ rows.map id) :
    newRows id rows batch = batch := by
  refine newRows_eq_self hdrawn.distinct fun row hrow hheld => ?_
  obtain ⟨position, hfirst, _, hid⟩ := hdrawn.drawn _ (List.mem_map_of_mem hrow)
  exact hfree position hfirst (hid ▸ hheld)

theorem upsertClock_eq_ok {clock : ResourceVectorClockModel}
    (hfree : clock.id ∉ ctx.vectorClocks.map ResourceVectorClockModel.id)
    (hreferenced : Table.vectorClocks.referenced ctx clock = true) :
    ∃ rows, ResourceRepo.upsertClock clock ctx = .ok { ctx with vectorClocks := rows } ∧
      rows.map ResourceVectorClockModel.id ⊆
        clock.id :: ctx.vectorClocks.map ResourceVectorClockModel.id := by
  unfold ResourceRepo.upsertClock
  split
  · refine ⟨_, rfl, ?_⟩
    rw [List.map_map]
    have hids : (ResourceVectorClockModel.id ∘ fun other =>
        if Table.vectorClocks.clash other clock then
          { other with clockValue := clock.clockValue } else other) =
          ResourceVectorClockModel.id := by
      funext other
      rw [Function.comp_apply]
      split <;> rfl
    rw [hids]
    exact List.subset_cons_self _ _
  · next hclash =>
      have hkey : clockPair clock ∉ ctx.vectorClocks.map clockPair := by
        simpa [Table.vectorClocks, clockPair] using hclash
      refine ⟨ctx.vectorClocks ++ [clock],
        vectorClocks_keyed.insert_abort_eq_ok_iff.mpr ⟨⟨hfree, hkey, hreferenced⟩, rfl⟩, ?_⟩
      intro id hid
      simpa [or_comm] using hid

theorem upsertClocks_eq_ok {clocks : List ResourceVectorClock}
    (hdistinct : (clocks.map ResourceVectorClock.id).Nodup)
    (hfree : ∀ clock ∈ clocks,
      clock.id ∉ ctx.vectorClocks.map ResourceVectorClockModel.id)
    (hreferenced : ∀ clock ∈ clocks, resourceExists ctx clock.resourceId = true ∧
      deviceExists ctx clock.deviceId = true) :
    ∃ rows, ResourceRepo.upsertClocks clocks ctx = .ok { ctx with vectorClocks := rows } := by
  induction clocks generalizing ctx with
  | nil => exact ⟨ctx.vectorClocks, rfl⟩
  | cons clock rest ih =>
      obtain ⟨hother, hrest⟩ := List.nodup_cons.mp hdistinct
      obtain ⟨hresource, hdevice⟩ := hreferenced clock (by simp)
      obtain ⟨rows, hupsert, hids⟩ := @upsertClock_eq_ok ctx (.ofDomain clock)
        (hfree clock (by simp)) (by
          rw [Table.vectorClocks, Bool.and_eq_true]
          exact ⟨hresource, hdevice⟩)
      obtain ⟨rows', hupserts⟩ := @ih { ctx with vectorClocks := rows } hrest
        (fun other hmem hheld => by
          rcases List.mem_cons.mp (hids hheld) with hsame | hheld
          · exact hother (List.mem_map.mpr ⟨other, hmem, hsame⟩)
          · exact hfree other (List.mem_cons_of_mem _ hmem) hheld)
        (fun other hmem => hreferenced other (List.mem_cons_of_mem _ hmem))
      refine ⟨rows', ?_⟩
      rw [ResourceRepo.upsertClocks, List.map_cons, List.foldlM_cons, hupsert]
      exact hupserts

end Stored

section Outcome

variable {env : ServiceEnv} {ctx : RepositoryContext} {currentUser : User}
variable {first last : Nat} {targets : List (String × String)}
variable {data : List ResourceSharingData}

theorem keys_admitted_iff {ctx' : RepositoryContext}
    (hfresh : FreshIds env.libraries.uuid { ctx with drawnIds := first })
    (hresources : ∀ target ∈ targets, resourceExists ctx target.1 = true)
    (hprepared : Prepared env ctx currentUser first targets data last) (drawnIds : Nat) :
    Table.resourceKeys.insertAll .doNothing (data.map fun item => item.resourceKey)
        { ctx with drawnIds } = .ok ctx' ↔
      (data.map fun item => keyPair item.resourceKey).Nodup ∧
        ctx' = { ctx with
          resourceKeys := ctx.resourceKeys ++ data.map fun item => item.resourceKey
          drawnIds } := by
  have hnew : newRows ResourceKey.id ctx.resourceKeys
      (data.map fun item => item.resourceKey) = data.map fun item => item.resourceKey :=
    newRows_drawn (hprepared.keyIds hfresh.injective) hfresh.keys
  have hadmits : Table.resourceKeys.Admits keyPair { ctx with drawnIds }
      (data.map fun item => item.resourceKey) ↔
        (data.map fun item => keyPair item.resourceKey).Nodup := by
    change Addable keyPair _ ctx.resourceKeys (newRows ResourceKey.id ctx.resourceKeys _) ↔ _
    rw [hnew]
    refine ⟨fun haddable => by simpa [Function.comp_def] using haddable.distinct,
      fun hdistinct => ⟨by simpa [Function.comp_def] using hdistinct, ?_, ?_⟩⟩
    · intro key hkey
      obtain ⟨item, hitem, rfl⟩ := List.mem_map.mp hkey
      obtain ⟨target, _, hshare, _, _, hdata⟩ := hprepared.sharesWith item hitem
      exact hdata.key ▸ keyFor?_eq_none.mp hshare.1
    · intro key hkey
      obtain ⟨item, hitem, rfl⟩ := List.mem_map.mp hkey
      obtain ⟨target, htarget, _, _, _, hdata⟩ := hprepared.sharesWith item hitem
      have hresource := hresources target htarget
      have hrecipient := hdata.recipient
      rw [← hdata.key] at hresource hrecipient
      exact Bool.and_eq_true_iff.mpr ⟨hresource, hrecipient⟩
  rw [resourceKeys_keyed.insertAll_eq_ok_iff_newRows, hadmits]
  change _ ∧ ctx' = { ctx with
    resourceKeys := ctx.resourceKeys ++ newRows ResourceKey.id ctx.resourceKeys _
    drawnIds } ↔ _
  rw [hnew]

theorem records_admitted
    (hfresh : FreshIds env.libraries.uuid { ctx with drawnIds := first })
    (hresources : ∀ target ∈ targets, resourceExists ctx target.1 = true)
    (hsharer : data ≠ [] → userExists ctx currentUser.id = true)
    (hprepared : Prepared env ctx currentUser first targets data last)
    (keys : List ResourceKey) (drawnIds : Nat) :
    Table.shareRecords.insertAll .doNothing (data.map fun item => item.shareRecord)
        { ctx with resourceKeys := keys, drawnIds } = .ok { ctx with
          resourceKeys := keys
          shareRecords := ctx.shareRecords ++ data.map fun item => item.shareRecord
          drawnIds } := by
  have hids := hprepared.recordIds hfresh.injective
  have hnew : newRows ShareRecord.id ctx.shareRecords
      (data.map fun item => item.shareRecord) = data.map fun item => item.shareRecord :=
    newRows_drawn hids hfresh.records
  rw [shareRecords_keyed.insertAll_eq_ok_iff_newRows]
  change Addable ShareRecord.id _ ctx.shareRecords
      (newRows ShareRecord.id ctx.shareRecords _) ∧ _ = { ctx with
    resourceKeys := keys
    shareRecords := ctx.shareRecords ++ newRows ShareRecord.id ctx.shareRecords _
    drawnIds }
  rw [hnew]
  refine ⟨⟨hids.distinct, fun record hrecord hheld => ?_, fun record hrecord => ?_⟩, rfl⟩
  · obtain ⟨position, hfirst, _, hid⟩ := hids.drawn _ (List.mem_map_of_mem hrecord)
    exact hfresh.records position hfirst (hid ▸ hheld)
  · obtain ⟨item, hitem, rfl⟩ := List.mem_map.mp hrecord
    obtain ⟨target, htarget, _, _, _, hdata⟩ := hprepared.sharesWith item hitem
    have hresource := hresources target htarget
    have hrecipient := hdata.recipient
    rw [← hdata.record] at hresource hrecipient
    have hsharerExists : userExists ctx item.shareRecord.sharedByUserId = true :=
      hdata.sharer ▸ hsharer (List.ne_nil_of_mem hitem)
    exact Bool.and_eq_true_iff.mpr
      ⟨Bool.and_eq_true_iff.mpr ⟨hresource, hsharerExists⟩, hrecipient⟩

theorem clocks_admitted
    (hfresh : FreshIds env.libraries.uuid { ctx with drawnIds := first })
    (hresources : ∀ target ∈ targets, resourceExists ctx target.1 = true)
    (hprepared : Prepared env ctx currentUser first targets data last)
    (keys : List ResourceKey) (records : List ShareRecord) (drawnIds : Nat) :
    ∃ clocks, ResourceRepo.upsertClocks (data.flatMap fun item => item.vectorClocks)
        { ctx with resourceKeys := keys, shareRecords := records, drawnIds } = .ok { ctx with
          resourceKeys := keys
          shareRecords := records
          vectorClocks := clocks
          drawnIds } := by
  have hids := hprepared.clockIds hfresh.injective
  refine upsertClocks_eq_ok hids.distinct (fun clock hclock hheld => ?_) fun clock hclock => ?_
  · obtain ⟨position, hfirst, _, hid⟩ := hids.drawn _ (List.mem_map_of_mem hclock)
    exact hfresh.clocks position hfirst (hid ▸ hheld)
  · obtain ⟨item, hitem, hmem⟩ := List.mem_flatMap.mp hclock
    obtain ⟨target, htarget, _, _, _, hdata⟩ := hprepared.sharesWith item hitem
    obtain ⟨hresource, hdevice⟩ := hdata.clocks clock hmem
    exact ⟨hresource ▸ hresources target htarget, hdevice⟩

theorem storeShares_outcome
    (hfresh : FreshIds env.libraries.uuid { ctx with drawnIds := first })
    (hresources : ∀ target ∈ targets, resourceExists ctx target.1 = true)
    (hsharer : data ≠ [] → userExists ctx currentUser.id = true)
    (hprepared : Prepared env ctx currentUser first targets data last) (drawnIds : Nat) :
    ((data.map fun item => keyPair item.resourceKey).Nodup ∧
        ∃ clocks, storeShares data { ctx with drawnIds } = .ok { ctx with
          resourceKeys := ctx.resourceKeys ++ data.map fun item => item.resourceKey
          shareRecords := ctx.shareRecords ++ data.map fun item => item.shareRecord
          vectorClocks := clocks
          drawnIds }) ∨
      (¬ (data.map fun item => keyPair item.resourceKey).Nodup ∧
        ∃ violation, storeShares data { ctx with drawnIds } = .error violation) := by
  have hkeys {ctx'} := @keys_admitted_iff _ _ _ _ _ _ _ ctx' hfresh hresources hprepared
    drawnIds
  unfold storeShares
  by_cases hdistinct : (data.map fun item => keyPair item.resourceKey).Nodup
  · have hrecords := records_admitted hfresh hresources hsharer hprepared
      (ctx.resourceKeys ++ data.map fun item => item.resourceKey) drawnIds
    obtain ⟨clocks, hclocks⟩ := clocks_admitted hfresh hresources hprepared
      (ctx.resourceKeys ++ data.map fun item => item.resourceKey)
      (ctx.shareRecords ++ data.map fun item => item.shareRecord) drawnIds
    refine .inl ⟨hdistinct, clocks, ?_⟩
    rw [bind_eq_ok]
    refine ⟨_, hkeys.mpr ⟨hdistinct, rfl⟩, ?_⟩
    rw [bind_eq_ok]
    exact ⟨_, hrecords, hclocks⟩
  · refine .inr ⟨hdistinct, ?_⟩
    cases hinsert : Table.resourceKeys.insertAll .doNothing
        (data.map fun item => item.resourceKey) { ctx with drawnIds } with
    | error violation => exact ⟨violation, rfl⟩
    | ok ctx' => exact absurd (hkeys.mp hinsert).1 hdistinct

end Outcome

end Osvauld.Services
