import Osvauld.Services.AutoSharing
import Osvauld.Services.InterruptedUpdates
import Osvauld.Services.ReceivedFolders

namespace Osvauld.Services

open Osvauld.Core CryptoUtils Data Data.KeyedInserts Persistance

/-! The rows that a user reads the resources from, and what the services make of them. -/

def rowOf? (ctx : RepositoryContext) (resourceId userId : String) : Option ResourceWithKey :=
  (ResourceRepo.findById resourceId userId ctx).toOption

def contentOf (text : JsonText) : Value :=
  match text.parse with
  | .ok value => value
  | .error _ => unparsedData

def reading? (env : ServiceEnv) (ctx : RepositoryContext) (resourceId userId : String) :
    Option DecryptedResource :=
  (rowOf? ctx resourceId userId).bind fun row => (decryptSingleResource env row).toOption

section Reading

variable {env : ServiceEnv} {ctx ctx' : RepositoryContext} {resourceId userId : String}

theorem rowOf?_eq (ctx : RepositoryContext) (resourceId userId : String) :
    rowOf? ctx resourceId userId =
      (ResourceRepo.resource? ctx resourceId).bind fun resource =>
        (ResourceKeyRepo.keyFor? ctx resourceId userId).map fun key =>
          { resource, encryptedKey := key.encryptedKey } := by
  unfold rowOf? ResourceRepo.findById
  cases ResourceRepo.resource? ctx resourceId with
  | none => rfl
  | some resource => cases ResourceKeyRepo.keyFor? ctx resourceId userId <;> rfl

theorem rowOf?_id {row : ResourceWithKey} (hrow : rowOf? ctx resourceId userId = some row) :
    row.resource.id = resourceId := by
  rw [rowOf?_eq, Option.bind_eq_some_iff] at hrow
  obtain ⟨resource, hresource, hkey⟩ := hrow
  obtain ⟨_, _, rfl⟩ := Option.map_eq_some_iff.mp hkey
  simpa using List.find?_some hresource

theorem rowOf?_congr (hresources : ctx'.resources = ctx.resources)
    (hkeys : ctx'.resourceKeys = ctx.resourceKeys) :
    rowOf? ctx' resourceId userId = rowOf? ctx resourceId userId := by
  rw [rowOf?_eq, rowOf?_eq, ResourceRepo.resource?, ResourceKeyRepo.keyFor?, hresources, hkeys]
  rfl

theorem rowOf?_added {resources : List Resource} {keys : List ResourceKey}
    (hresources : ctx'.resources = ctx.resources ++ resources)
    (hkeys : ctx'.resourceKeys = ctx.resourceKeys ++ keys)
    (hothers : ∀ resource ∈ resources, resource.id ≠ resourceId)
    (huseless : ∀ key ∈ keys, key.resourceId = resourceId → key.userId = userId →
      ResourceRepo.resource? ctx resourceId = none ∨
        (ResourceKeyRepo.keyFor? ctx resourceId userId).isSome = true) :
    rowOf? ctx' resourceId userId = rowOf? ctx resourceId userId := by
  have hresource : ResourceRepo.resource? ctx' resourceId =
      ResourceRepo.resource? ctx resourceId := by
    have hnone : resources.find? (fun resource => decide (resource.id = resourceId)) = none := by
      simpa using hothers
    rw [ResourceRepo.resource?, hresources, List.find?_append, hnone, Option.or_none]
    rfl
  rw [rowOf?_eq, rowOf?_eq, hresource]
  cases hstored : ResourceRepo.resource? ctx resourceId with
  | none => rfl
  | some resource =>
      have hkey : ResourceKeyRepo.keyFor? ctx' resourceId userId =
          ResourceKeyRepo.keyFor? ctx resourceId userId := by
        unfold ResourceKeyRepo.keyFor? at huseless ⊢
        rw [hkeys, List.find?_append]
        cases hheld : ctx.resourceKeys.find? fun key =>
            key.resourceId = resourceId && key.userId = userId with
        | some key => rfl
        | none =>
            rw [Option.none_or, List.find?_eq_none]
            intro key hkey hfor
            have hfor : key.resourceId = resourceId ∧ key.userId = userId := by simpa using hfor
            rcases huseless key hkey hfor.1 hfor.2 with hnone | hsome
            · rw [hstored] at hnone
              cases hnone
            · rw [hheld] at hsome
              cases hsome
      rw [hkey]

theorem getResourceByIdDirect_reads (env : ServiceEnv) (resourceId userId : String)
    (ctx : RepositoryContext) :
    ((getResourceByIdDirect env resourceId userId).run ctx).2 = ctx ∧
      ((getResourceByIdDirect env resourceId userId).run ctx).1.toOption =
        reading? env ctx resourceId userId := by
  rw [getResourceByIdDirect, Program.run_bind, query, Program.run_read, reading?, rowOf?]
  cases ResourceRepo.findById resourceId userId ctx with
  | error error => exact ⟨rfl, rfl⟩
  | ok row =>
      rw [Except.mapError, Program.andThen_ok, liftCrypto, Program.run_ofExcept]
      refine ⟨rfl, ?_⟩
      cases hdecrypt : decryptSingleResource env row <;>
        simp [Except.mapError, Except.toOption, hdecrypt]

theorem decryptSingleResource_reads {row : ResourceWithKey} {shown : DecryptedResource}
    (hdecrypt : decryptSingleResource env row = .ok shown) :
    shown.id = row.resource.id ∧ shown.folderId = row.resource.folderId ∧
      ∃ key plain, row.resource.data = .sealed key plain ∧ shown.data = contentOf plain := by
  obtain ⟨plain, hplain, hshown⟩ := bind_eq_ok.mp hdecrypt
  cases hshown
  obtain ⟨key, hdata⟩ := decryptResource_ok hplain
  exact ⟨rfl, rfl, key, plain, hdata, rfl⟩

end Reading

/-- A resource is stored under a new id with its data, and what is read of the others
stays as it was. -/
structure CreatesRow (payload : JsonText) (userId resourceId : String)
    (ctx ctx' : RepositoryContext) : Prop where
  fresh : rowOf? ctx resourceId userId = none
  others : ∀ other, other ≠ resourceId → rowOf? ctx' other userId = rowOf? ctx other userId
  data : ∀ row, rowOf? ctx' resourceId userId = some row →
    ∃ key, row.resource.data = .sealed key payload

def CreatesRowOrNot (env : ServiceEnv) (payload : JsonText) (userId : String)
    (since : RepositoryContext) (outcome : Except ServiceError DecryptedResource)
    (ctx : RepositoryContext) : Prop :=
  (∀ resourceId, rowOf? ctx resourceId userId = rowOf? since resourceId userId) ∨
    ∃ resourceId, CreatesRow payload userId resourceId since ctx ∧
      ((∃ error, outcome = .error error) → reading? env ctx resourceId userId = none)

theorem saveResourceWithDependencies_createsRow {since ctx ctx' : RepositoryContext}
    {resource : Resource} {key : ResourceKey} {record : ShareRecord}
    {clocks : List ResourceVectorClock} {user : User} {newKey : String} {payload : JsonText}
    (hdrew : OnlyDrew since ctx) (hlive : resource.deleted = false)
    (hkey : keyPair key = (resource.id, user.id))
    (hrecord : recordPair record = (resource.id, user.id))
    (hdata : resource.data = .sealed newKey payload)
    (hsave : ResourceRepo.saveResourceWithDependencies resource key record clocks ctx =
      .ok ctx') : CreatesRow payload user.id resource.id since ctx' := by
  have hcreated := saveResourceWithDependencies_created hdrew rfl hlive hkey hrecord hsave
  obtain ⟨drawnIds, rfl⟩ := hdrew
  have hresources : ctx'.resources = since.resources ++ [resource] := by
    have hadded := saveResourceWithDependencies_resources hsave
    exact hadded
  obtain ⟨_, hkeys, hpair⟩ := hcreated.keys
  have hfree : ResourceRepo.resource? since resource.id = none := by
    rw [ResourceRepo.resource?, List.find?_eq_none]
    exact List.any_eq_false.mp hcreated.wasFree
  refine ⟨?_, fun other hother => ?_, fun row hrow => ⟨newKey, ?_⟩⟩
  · rw [rowOf?_eq, hfree, Option.bind_none]
  · refine rowOf?_added hresources hkeys (by simpa using hother.symm) ?_
    intro added hadded hid _
    rw [List.mem_singleton] at hadded
    rw [hadded] at hid
    exact absurd (hid.symm.trans (congrArg Prod.fst hpair)) hother
  · rw [rowOf?_eq, Option.bind_eq_some_iff] at hrow
    obtain ⟨stored, hstored, hfound⟩ := hrow
    obtain ⟨_, _, rfl⟩ := Option.map_eq_some_iff.mp hfound
    rw [ResourceRepo.resource?, hresources, List.find?_append] at hstored
    unfold ResourceRepo.resource? at hfree
    rw [hfree] at hstored
    have hsame : resource = stored := by simpa using hstored
    rw [← hsame]
    exact hdata

theorem createResource_createsRow (env : ServiceEnv) (payload : JsonText)
    (resourceType : ResourceType) (folderId : String) (user : User)
    (currentDeviceId : String) (since : RepositoryContext) :
    Program.Leads (OnlyDrew since) (CreatesRowOrNot env payload user.id since)
      (createResource env payload resourceType folderId user currentDeviceId) := by
  have hfailed (error : ServiceError) (ctx : RepositoryContext) (hdrew : OnlyDrew since ctx) :
      CreatesRowOrNot env payload user.id since (.error error) ctx := by
    obtain ⟨_, rfl⟩ := hdrew
    exact .inl fun _ => rfl
  have hdraws (count : Nat) : Program.Keeps (OnlyDrew since) (fun _ => True)
      (drawIds env count) :=
    drawIds_keeps (fun _ drawnIds hdrew => hdrew.draw drawnIds) env count
  refine .bind (drawId_drew env) hfailed fun newKey _ => ?_
  refine .bind (liftCrypto_keeps fun _ => encryptDataForUser_eq_ok) hfailed
    fun encrypted hencrypted => ?_
  cases hencrypted
  refine .bind (drawId_drew env) hfailed fun resourceId _ => ?_
  refine .bind (liftCrypto_keeps_any _) hfailed fun signature _ => ?_
  refine .bind (drawId_drew env) hfailed fun keyId _ => ?_
  refine .bind (query_keeps_any _) hfailed fun encryptedUcanKey _ => ?_
  refine .bind (liftCrypto_keeps_any _) hfailed fun (ucanToken, ucanCid) _ => ?_
  refine .bind (drawId_drew env) hfailed fun recordId _ => ?_
  refine .bind (query_keeps_any _) hfailed fun userDevices _ => ?_
  refine .bind (hdraws _) hfailed fun clockIds _ => ?_
  refine .write_bind hfailed fun ctx ctx' hdrew hsave => ?_
  obtain ⟨hsame, hreading⟩ := getResourceByIdDirect_reads env resourceId user.id ctx'
  rw [hsame]
  refine .inr ⟨resourceId, saveResourceWithDependencies_createsRow hdrew rfl rfl rfl rfl
    (mapError_eq_ok.mp hsave), ?_⟩
  rintro ⟨error, herror⟩
  rw [herror] at hreading
  exact hreading.symm

section Editing

variable {env : ServiceEnv} {resourceId userId currentDeviceId : String} {data : JsonText}
variable {ctx ctx' : RepositoryContext} {cipher : AesText}

def ChangesRow (resourceId userId : String) (change : Resource → Resource)
    (ctx ctx' : RepositoryContext) : Prop :=
  ∀ other, rowOf? ctx' other userId =
    (rowOf? ctx other userId).map fun row =>
      if other = resourceId then { row with resource := change row.resource } else row

theorem changesRow_of_map {change : Resource → Resource}
    (hid : ∀ resource, (change resource).id = resource.id)
    (hresources : ctx'.resources = ctx.resources.map fun resource =>
      if resource.id = resourceId then change resource else resource)
    (hkeys : ctx'.resourceKeys = ctx.resourceKeys) :
    ChangesRow resourceId userId change ctx ctx' := by
  intro other
  have hcomp : ((fun resource : Resource => decide (resource.id = other)) ∘
      fun resource => if resource.id = resourceId then change resource else resource) =
        fun resource => decide (resource.id = other) := by
    funext resource
    rw [Function.comp_apply]
    split
    · rw [hid]
    · rfl
  rw [rowOf?_eq, rowOf?_eq, ResourceRepo.resource?, ResourceRepo.resource?,
    ResourceKeyRepo.keyFor?, ResourceKeyRepo.keyFor?, hresources, hkeys, List.find?_map, hcomp]
  cases hstored : ctx.resources.find? fun resource => decide (resource.id = other) with
  | none => rfl
  | some resource =>
      obtain rfl : resource.id = other := by simpa using List.find?_some hstored
      rw [Option.map_some, Option.bind_some, Option.bind_some, Option.map_map]
      congr 1
      funext key
      by_cases hwanted : resource.id = resourceId <;> simp [hwanted]

theorem ChangesRow.followed {change : Resource → Resource} {last : RepositoryContext}
    (hchanges : ChangesRow resourceId userId change ctx ctx')
    (hresources : last.resources = ctx'.resources)
    (hkeys : last.resourceKeys = ctx'.resourceKeys) :
    ChangesRow resourceId userId change ctx last :=
  fun other => (rowOf?_congr hresources hkeys).trans (hchanges other)

theorem deleteResource_changesRow (env : ServiceEnv) (resourceId userId : String)
    (ctx : RepositoryContext) :
    ChangesRow resourceId userId
      (fun resource => { resource with
        deleted := true, deletedAt := some env.now, updatedAt := env.now }) ctx
      ((deleteResource env resourceId).run ctx).2 :=
  changesRow_of_map (fun _ => rfl) rfl rfl

theorem updateResource_nothing (currentDeviceId : String)
    (hnone : replacement? env resourceId data userId ctx = none) :
    ∃ error, (updateResource env resourceId data userId currentDeviceId).run ctx =
      (.error error, ctx) := by
  unfold replacement? at hnone
  rw [updateResource, Program.run_bind, query, Program.run_read]
  cases hfind : ResourceRepo.findById resourceId userId ctx with
  | error error => exact ⟨_, rfl⟩
  | ok row =>
      rw [hfind] at hnone
      rw [Except.mapError, Program.andThen_ok, Program.run_bind, liftCrypto,
        Program.run_ofExcept]
      cases hencrypt : CryptoUtils.updateResource env.cert data row.encryptedKey with
      | error error => exact ⟨_, rfl⟩
      | ok cipher => simp [hencrypt, Except.toOption] at hnone

theorem countAndRead_reads (env : ServiceEnv) (resourceId userId currentDeviceId : String)
    (written : RepositoryContext) :
    Program.Leads
      (fun ctx => ctx.resources = written.resources ∧ ctx.resourceKeys = written.resourceKeys)
      (fun outcome ctx => (ctx.resources = written.resources ∧
          ctx.resourceKeys = written.resourceKeys) ∧
        ∀ shown, outcome = .ok shown → reading? env ctx resourceId userId = some shown)
      (countAndRead env resourceId userId currentDeviceId) := by
  have hdraw : Program.Keeps
      (fun ctx => ctx.resources = written.resources ∧ ctx.resourceKeys = written.resourceKeys)
      (fun _ => True) (drawId env) := drawId_keeps (fun _ _ hsame => hsame) env
  refine .bind hdraw (fun _ _ hsame => ⟨hsame, fun _ hok => by cases hok⟩) fun clockId _ => ?_
  refine .write_bind (fun _ _ hsame => ⟨hsame, fun _ hok => by cases hok⟩)
    fun ctx ctx' hsame hwrite => ?_
  have hincrement := mapError_eq_ok.mp hwrite
  obtain ⟨hstays, hreading⟩ := getResourceByIdDirect_reads env resourceId userId ctx'
  rw [hstays]
  refine ⟨⟨(incrementVectorClock_resources hincrement).trans hsame.1,
    (incrementVectorClock_resourceKeys hincrement).trans hsame.2⟩, fun shown hok => ?_⟩
  rw [hok] at hreading
  exact hreading.symm

theorem updateResource_run_written
    (hcipher : replacement? env resourceId data userId ctx = some cipher) :
    (updateResource env resourceId data userId currentDeviceId).run ctx =
      (countAndRead env resourceId userId currentDeviceId).run
        (writtenStore env resourceId cipher ctx) := by
  obtain ⟨row, hfind, hencrypt⟩ := replacement?_eq_some hcipher
  rw [updateResource, Program.run_bind, query, Program.run_read, hfind, Except.mapError,
    Program.andThen_ok, Program.run_bind, liftCrypto, Program.run_ofExcept, hencrypt]
  rfl

theorem updateResource_changesRow (currentDeviceId : String)
    (hcipher : replacement? env resourceId data userId ctx = some cipher) :
    let outcome := (updateResource env resourceId data userId currentDeviceId).run ctx
    ChangesRow resourceId userId (ResourceRepo.setData cipher env.now) ctx outcome.2 ∧
      ∀ shown, outcome.1 = .ok shown →
        reading? env outcome.2 resourceId userId = some shown := by
  obtain ⟨⟨hresources, hkeys⟩, htold⟩ := countAndRead_reads env resourceId userId
    currentDeviceId (writtenStore env resourceId cipher ctx) _ ⟨rfl, rfl⟩
  have hwritten : ChangesRow resourceId userId (ResourceRepo.setData cipher env.now) ctx
      (writtenStore env resourceId cipher ctx) := changesRow_of_map (fun _ => rfl) rfl rfl
  dsimp only
  rw [updateResource_run_written hcipher]
  exact ⟨hwritten.followed hresources hkeys, htold⟩

theorem updateResource_ok_iff
    (hcipher : replacement? env resourceId data userId ctx = some cipher) :
    (∃ shown, ((updateResource env resourceId data userId currentDeviceId).run ctx).1 =
        .ok shown) ↔ RowReady env resourceId currentDeviceId ctx := by
  have hincrement := @rowReady_iff env resourceId data userId currentDeviceId ctx cipher hcipher
  rw [updateResource_run_written hcipher, countAndRead, hincrement, Program.run_bind]
  change (∃ shown, (Program.andThen (.ok (env.libraries.uuid
    (writtenStore env resourceId cipher ctx).drawnIds),
      drawn (writtenStore env resourceId cipher ctx)) _).1 = _) ↔ _
  rw [Program.andThen_ok, Program.run_bind, update, Program.run_write]
  cases hcount : VectorClockRepo.incrementVectorClock
      (env.libraries.uuid (writtenStore env resourceId cipher ctx).drawnIds) env.now
        resourceId currentDeviceId (drawn (writtenStore env resourceId cipher ctx)) with
  | error error => simp [Except.mapError]
  | ok counted =>
      refine iff_of_true ?_ ⟨counted, rfl⟩
      have hresources : counted.resources =
          (writtenStore env resourceId cipher ctx).resources := by
        rw [incrementVectorClock_resources hcount]
        rfl
      have hkeys : counted.resourceKeys = ctx.resourceKeys := by
        rw [incrementVectorClock_resourceKeys hcount]
        rfl
      exact getResourceByIdDirect_written hcipher hresources hkeys

theorem decryptSingleResource_replacement {row : ResourceWithKey}
    (hencrypt : CryptoUtils.updateResource env.cert data row.encryptedKey = .ok cipher)
    (now : Int) :
    ∃ shown, decryptSingleResource env
        { row with resource := ResourceRepo.setData cipher now row.resource } = .ok shown ∧
      shown.data = contentOf data := by
  obtain ⟨key, hkey, hsealed⟩ := bind_eq_ok.mp hencrypt
  cases hsealed
  have hplain : decryptResource env.cert (.sealed key data) row.encryptedKey = .ok data := by
    rw [decryptResource, hkey]
    exact if_pos rfl
  unfold decryptSingleResource
  rw [ResourceRepo.setData, hplain]
  exact ⟨_, rfl, rfl⟩

end Editing

def ConcernsOnly (payload : ResourceSyncData) (userId : String) (ctx : RepositoryContext) :
    Prop :=
  ∀ key ∈ payload.resourceKeys, key.userId = userId →
    key.resourceId ≠ payload.resource.id →
      ResourceRepo.resource? ctx key.resourceId = none ∨
        (ResourceKeyRepo.keyFor? ctx key.resourceId userId).isSome = true

theorem saveResourceSyncData_adds {payload : ResourceSyncData} {ctx ctx' : RepositoryContext}
    (hsave : ResourceRepo.saveResourceSyncData payload ctx = .ok ctx') :
    (∃ resources, ctx'.resources = ctx.resources ++ resources ∧
        ∀ resource ∈ resources, resource = payload.resource) ∧
      ∃ keys, ctx'.resourceKeys = ctx.resourceKeys ++ keys ∧
        ∀ key ∈ keys, key ∈ payload.resourceKeys := by
  simp only [ResourceRepo.saveResourceSyncData, reportAs_eq_ok, bind_eq_ok] at hsave
  obtain ⟨first, hresource, second, hkeys, third, hshares, hclocks⟩ := hsave
  let Added (state : RepositoryContext) : Prop :=
    (∃ resources, state.resources = ctx.resources ++ resources ∧
        ∀ resource ∈ resources, resource = payload.resource) ∧
      ∃ keys, state.resourceKeys = ctx.resourceKeys ++ keys ∧
        ∀ key ∈ keys, key ∈ payload.resourceKeys
  have hfirst : Added first := by
    rcases Table.insert_eq_ok hresource with rfl | ⟨_, rfl⟩
    · exact ⟨⟨[], by simp⟩, [], by simp⟩
    · exact ⟨⟨[payload.resource], rfl, by simp⟩, [], by simp [Table.resources]⟩
  have hsecond : Added second := by
    refine Table.insertAll_induction Added (fun key hkey state _ hstate => ?_) hfirst hkeys
    obtain ⟨hresources, keys, hstored, hadded⟩ := hstate
    refine ⟨hresources, keys ++ [key], ?_, ?_⟩
    · rw [← List.append_assoc, ← hstored]
      rfl
    · intro other hother
      rcases List.mem_append.mp hother with hold | hnew
      · exact hadded other hold
      · exact List.mem_singleton.mp hnew ▸ hkey
  have hthird : Added third :=
    Table.insertAll_induction Added (fun _ _ _ _ hstate => hstate) hsecond hshares
  exact Table.insertAll_induction Added (fun _ _ _ _ hstate => hstate) hthird hclocks

theorem addResourceSync_others (payload : ResourceSyncData) (connectionType : ConnectionType)
    (ctx : RepositoryContext) :
    let outcome := (addResourceSync payload connectionType).run ctx
    ((∃ error, outcome.1 = .error error) ∧ outcome.2 = ctx) ∨
      outcome.1 = .ok .unit ∧ ∀ userId, ConcernsOnly payload userId ctx →
        ∀ other, other ≠ payload.resource.id →
          rowOf? outcome.2 other userId = rowOf? ctx other userId := by
  have hleads : Program.Leads (fun state => state = ctx)
      (fun outcome after => ((∃ error, outcome = .error error) ∧ after = ctx) ∨
        outcome = .ok .unit ∧ ∀ userId, ConcernsOnly payload userId ctx →
          ∀ other, other ≠ payload.resource.id →
            rowOf? after other userId = rowOf? ctx other userId)
      (addResourceSync payload connectionType) := by
    refine .bind (placeReceived_keeps connectionType payload)
      (fun error _ hsame => .inl ⟨⟨error, rfl⟩, hsame⟩) ?_
    intro placed ⟨hid, _, hkeys⟩ state hstate
    rw [hstate, update, Program.run_write]
    cases hsave : ResourceRepo.saveResourceSyncData placed ctx with
    | error error => exact .inl ⟨⟨_, rfl⟩, rfl⟩
    | ok after =>
        refine .inr ⟨rfl, fun userId hconcerns other hother => ?_⟩
        change rowOf? after other userId = _
        obtain ⟨⟨resources, hresources, hrows⟩, keys, hadded, hnew⟩ :=
          saveResourceSyncData_adds hsave
        refine rowOf?_added hresources hadded (fun resource hresource => ?_)
          fun key hkey hfor huser => ?_
        · rw [hrows resource hresource, hid]
          exact hother.symm
        · have hnotOwn : key.resourceId ≠ payload.resource.id := hfor ▸ hother
          have huseless := hconcerns key (hkeys ▸ hnew key hkey) huser hnotOwn
          rwa [hfor] at huseless
  exact hleads ctx rfl

end Osvauld.Services
