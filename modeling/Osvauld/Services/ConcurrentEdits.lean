import Osvauld.Data.Interleaving
import Osvauld.Services.StoredDocuments

namespace Osvauld.Services

open Osvauld.Core Data Persistance

/-! Edits of stored documents whose steps are interleaved. -/

inductive Edit where
  | updateResource (data : JsonText) (currentDeviceId : String)
  | applyUpdates (updates : JsonText)
  | applyUpdatesAndGetPeerUpdates (updates : JsonText)

structure EditCall where
  env : ServiceEnv
  resourceId : String
  userId : String
  edit : Edit

namespace EditCall

def body (call : EditCall) : Service PUnit :=
  match call.edit with
  | .updateResource data currentDeviceId => do
      let _ ← updateResource call.env call.resourceId data call.userId
        currentDeviceId
  | .applyUpdates updates =>
      applyUpdates call.env call.resourceId updates call.userId
  | .applyUpdatesAndGetPeerUpdates updates => do
      let _ ← applyUpdatesAndGetPeerUpdates call.env call.resourceId call.userId
        updates

end EditCall

def Stored (resourceId : String) (updates : JsonText) (ctx : RepositoryContext) :
    Prop :=
  ∀ input stateKey, updates.parseObject = .ok input →
    entryUpdates input stateKey ≠ [] →
    ∃ resource, ResourceRepo.resource? ctx resourceId = some resource ∧
      stateKey ∈ resource.resourceType.documentStateKeys ∧
      ((plainValue resource.data).documentBytes stateKey).isSome

/-- A merged document is written over the one it was merged into. `since` is
the store after the last step of the call, `ctx` the one that the next step
finds and `ctx'` what it makes of it. -/
structure UndisturbedMerge (resourceId : String) (updates : JsonText)
    (since ctx ctx' : RepositoryContext) : Prop where
  stored : Stored resourceId updates ctx
  undisturbed : storedData? ctx' resourceId ≠ storedData? ctx resourceId →
    storedData? ctx resourceId = storedData? since resourceId

section Content

variable {yrs : Yrs} {L : Type*} [SemilatticeSup L] [OrderBot L]
variable (lawful : LawfulYrs yrs L)

/-- The updates in a text for `apply_updates`, by state key. -/
def updatesIn (updates : JsonText) : String → WithBot L :=
  match updates.parseObject with
  | .ok input => lawful.brought input
  | .error _ => ⊥

def UndisturbedReplacement (resourceId : String) (data : JsonText)
    (ctx ctx' : RepositoryContext) : Prop :=
  storedData? ctx' resourceId ≠ storedData? ctx resourceId →
    documents lawful ctx resourceId ≤ lawful.documentContent (textValue data)

namespace EditCall

def brings (call : EditCall) : String → WithBot L :=
  match call.edit with
  | .updateResource data _ => lawful.documentContent (textValue data)
  | .applyUpdates updates => updatesIn lawful updates
  | .applyUpdatesAndGetPeerUpdates updates => updatesIn lawful updates

def Undisturbed (call : EditCall) (since ctx ctx' : RepositoryContext) : Prop :=
  match call.edit with
  | .updateResource data _ =>
      UndisturbedReplacement lawful call.resourceId data ctx ctx'
  | .applyUpdates updates =>
      UndisturbedMerge call.resourceId updates since ctx ctx'
  | .applyUpdatesAndGetPeerUpdates updates =>
      UndisturbedMerge call.resourceId updates since ctx ctx'

end EditCall

structure DocumentsGrow (ctx ctx' : RepositoryContext) : Prop where
  resources : ∀ resourceId, (storedData? ctx resourceId).isSome →
    (storedData? ctx' resourceId).isSome
  content : ∀ resourceId,
    documents lawful ctx resourceId ≤ documents lawful ctx' resourceId

instance : IsPreorder RepositoryContext (DocumentsGrow lawful) where
  refl _ := ⟨fun _ => id, fun _ => le_rfl⟩
  trans _ _ _ hfirst hsecond :=
    ⟨fun resourceId hstored =>
        hsecond.resources resourceId (hfirst.resources resourceId hstored),
      fun resourceId =>
        (hfirst.content resourceId).trans (hsecond.content resourceId)⟩

variable {ctx ctx' : RepositoryContext} {resourceId : String}

theorem DocumentsGrow.of_data
    (hdata : ∀ resourceId, storedData? ctx' resourceId = storedData? ctx resourceId) :
    DocumentsGrow lawful ctx ctx' :=
  ⟨fun resourceId hstored => by rw [hdata]; exact hstored,
    fun resourceId => (documents_congr lawful (hdata resourceId)).ge⟩

theorem DocumentsGrow.updateResource {now : Int} {data : AesText}
    (hupdate : ResourceRepo.updateResource now data resourceId ctx = .ok ctx')
    (hcontains : storedData? ctx' resourceId ≠ storedData? ctx resourceId →
      documents lawful ctx resourceId ≤
        lawful.documentContent (plainValue data)) : DocumentsGrow lawful ctx ctx' := by
  have hafter := storedData?_updateResource hupdate
  refine ⟨fun other hstored => ?_, fun other => ?_⟩
  · rw [hafter]
    split <;> simpa using hstored
  · by_cases hsame : storedData? ctx' other = storedData? ctx other
    · exact (documents_congr lawful hsame).ge
    · obtain rfl : other = resourceId := by
        by_contra hother
        exact hsame (by rw [hafter, if_neg hother])
      cases hstored : storedData? ctx other with
      | none => simp [hafter, hstored] at hsame
      | some old =>
          have hnew : storedData? ctx' other = some data := by
            simp [hafter, hstored]
          rw [documents_of_data lawful hnew]
          exact hcontains hsame

variable {allowed : RepositoryContext → RepositoryContext → RepositoryContext → Prop}
variable {since : RepositoryContext} {α : Type}
variable {good : α → RepositoryContext → Prop}

theorem documents_updateResource {now : Int} {data : AesText}
    (hstored : (storedData? ctx resourceId).isSome)
    (hupdate : ResourceRepo.updateResource now data resourceId ctx = .ok ctx') :
    documents lawful ctx' resourceId =
      lawful.documentContent (plainValue data) := by
  obtain ⟨old, hold⟩ := Option.isSome_iff_exists.mp hstored
  refine documents_of_data lawful ?_
  simp [storedData?_updateResource hupdate, hold]

theorem drawId_follows (env : ServiceEnv) :
    Program.Follows allowed (DocumentsGrow lawful) (fun _ _ => True) since
      (drawId env) := by
  have hdraw : Program.Follows allowed (DocumentsGrow lawful) (fun _ _ => True) since
      (drawIds env 1) :=
    .atomically (fun ctx _ => .of_data lawful fun _ => rfl) fun _ _ _ _ => trivial
  exact .bind hdraw fun _ _ _ _ => .pure trivial

theorem incrementVectorClock_follows {freshId : String} {now : Int} {deviceId : String} :
    Program.Follows allowed (DocumentsGrow lawful) (fun _ _ => True) since
      (update (VectorClockRepo.incrementVectorClock freshId now resourceId
        deviceId)) := by
  refine update_follows fun ctx ctx' _ _ hincrement => ⟨?_, trivial⟩
  have hresources := incrementVectorClock_resources hincrement
  exact .of_data lawful fun other => by
    simp [storedData?, ResourceRepo.resource?, hresources]

theorem getResource_follows (env : ServiceEnv) (resourceId userId : String) :
    Program.Follows allowed (DocumentsGrow lawful)
      (fun read ctx => allowed since ctx ctx ∧
        ∃ stored, ResourceRepo.resource? ctx resourceId = some stored ∧
          Shows read.1 stored) since
      (getResource env resourceId userId) := by
  have hfind : Program.Follows allowed (DocumentsGrow lawful)
      (fun row ctx => allowed since ctx ctx ∧
        ResourceRepo.resource? ctx resourceId = some row.resource) since
      (query (ResourceRepo.findById resourceId userId)) :=
    query_follows fun ctx row _ hallowed hrow =>
      ⟨hallowed, findById_ok hrow⟩
  refine .bind hfind fun row ctx _ ⟨hallowed, hrow⟩ => ?_
  have hdecrypt : Program.Follows allowed (DocumentsGrow lawful)
      (fun resource state => state = ctx ∧ Shows resource row.resource) ctx
      (liftCrypto (decryptSingleResource env row)) :=
    .ofExcept fun resource hresource =>
      ⟨rfl, decryptSingleResource_ok (mapError_eq_ok.mp hresource)⟩
  refine .bind hdecrypt fun resource state _ ⟨hstate, hshows⟩ => ?_
  exact .pure (hstate ▸ ⟨hallowed, row.resource, hrow, hshows⟩)

theorem syncUpdates_contains {updates answers : JsonText} {stored : Resource}
    {resource merged : DecryptedResource}
    (hstored : ResourceRepo.resource? ctx resourceId = some stored) (hshows : Shows resource stored)
    (hplaces : Stored resourceId updates ctx)
    (hsync : resource.syncUpdates yrs updates = .ok (merged, answers)) :
    documents lawful ctx resourceId ≤ lawful.documentContent merged.data ∧
      updatesIn lawful updates ≤ lawful.documentContent merged.data := by
  obtain ⟨input, hinput, htakes⟩ := DecryptedResource.syncUpdates_ok lawful hsync
  have hdocuments : documents lawful ctx resourceId =
      lawful.documentContent resource.data := by
    funext stateKey
    have hdata : storedData? ctx resourceId = some stored.data := by
      simp [storedData?, hstored]
    rw [documents_of_data lawful hdata]
    simp [LawfulYrs.documentContent, hshows.documents]
  refine ⟨fun stateKey => ?_, fun stateKey => ?_⟩
  · rw [hdocuments, htakes.content]
    exact le_sup_left
  · rw [htakes.content]
    by_cases hnone : entryUpdates input stateKey = []
    · simp [updatesIn, hinput, LawfulYrs.brought, hnone]
    · obtain ⟨row, hrow, hkey, hbytes⟩ := hplaces input stateKey hinput hnone
      obtain rfl : stored = row := Option.some.inj (hstored.symm.trans hrow)
      rw [← hshows.documents] at hbytes
      rw [hshows.resourceType, if_pos ⟨hkey, hbytes⟩]
      simp [updatesIn, hinput]

end Content

section Calls

variable {L : Type*} [SemilatticeSup L] [OrderBot L]
variable (env : ServiceEnv) (lawful : LawfulYrs env.libraries.yrs L)
variable {since : RepositoryContext} (resourceId userId : String)

theorem applyUpdatesAndGetPeerUpdates_follows (updates : JsonText) :
    Program.Follows (UndisturbedMerge resourceId updates) (DocumentsGrow lawful)
      (fun _ ctx => updatesIn lawful updates ≤ documents lawful ctx resourceId)
      since (applyUpdatesAndGetPeerUpdates env resourceId userId updates) := by
  refine .bind (getResource_follows lawful env resourceId userId)
    fun read ctx _ ⟨hallowed, stored, hstored, hshows⟩ => ?_
  have hsync : Program.Follows (UndisturbedMerge resourceId updates)
      (DocumentsGrow lawful)
      (fun result state => state = ctx ∧
        read.1.syncUpdates env.libraries.yrs updates = .ok result) ctx
      (liftParse (read.1.syncUpdates env.libraries.yrs updates)) :=
    .ofExcept fun result hresult => ⟨rfl, mapError_eq_ok.mp hresult⟩
  refine .bind hsync fun (merged, answers) state _ ⟨hstate, hmerged⟩ => ?_
  subst hstate
  obtain ⟨hkept, hbrought⟩ :=
    syncUpdates_contains lawful hstored hshows hallowed.stored hmerged
  have hread : (storedData? state resourceId).isSome := by simp [storedData?, hstored]
  have hencrypt : Program.Follows (UndisturbedMerge resourceId updates)
      (DocumentsGrow lawful)
      (fun data state' => state' = state ∧ plainValue data = merged.data) state
      (liftCrypto (CryptoUtils.updateResource env.cert (.encoded merged.data)
        read.2)) := by
    refine .ofExcept fun data hdata => ⟨rfl, ?_⟩
    obtain ⟨key, rfl⟩ := updateResource_ok (mapError_eq_ok.mp hdata)
    rfl
  refine .bind hencrypt fun data state' _ ⟨hstate', hplain⟩ => ?_
  subst hstate'
  rw [← hplain] at hkept hbrought
  have hwritten : Program.Follows (UndisturbedMerge resourceId updates)
      (DocumentsGrow lawful)
      (fun _ ctx => updatesIn lawful updates ≤ documents lawful ctx resourceId) state'
      (update (ResourceRepo.updateResource env.now data resourceId)) := by
    refine update_follows fun found written hreach hwrite hupdate => ⟨?_, ?_⟩
    · refine .updateResource lawful hupdate fun hchanged => ?_
      rw [documents_congr lawful (hwrite.undisturbed hchanged)]
      exact hkept
    · rw [documents_updateResource lawful (hreach.resources resourceId hread) hupdate]
      exact hbrought
  exact .bind hwritten fun _ _ _ hgood => .pure hgood

theorem applyUpdates_follows (updates : JsonText) :
    Program.Follows (UndisturbedMerge resourceId updates) (DocumentsGrow lawful)
      (fun _ ctx => updatesIn lawful updates ≤ documents lawful ctx resourceId)
      since (applyUpdates env resourceId updates userId) :=
  .bind (applyUpdatesAndGetPeerUpdates_follows env lawful resourceId userId updates)
    fun _ _ _ hgood => .pure hgood

theorem updateResource_follows (data : JsonText) (currentDeviceId : String) :
    Program.Follows
      (fun _ => UndisturbedReplacement lawful resourceId data)
      (DocumentsGrow lawful)
      (fun _ ctx => lawful.documentContent (textValue data) ≤
        documents lawful ctx resourceId)
      since (updateResource env resourceId data userId currentDeviceId) := by
  have hfind : Program.Follows (fun _ => UndisturbedReplacement lawful resourceId data)
      (DocumentsGrow lawful)
      (fun _ ctx => (storedData? ctx resourceId).isSome) since
      (query (ResourceRepo.findById resourceId userId)) :=
    query_follows fun ctx row _ _ hrow => by
      simp [storedData?, findById_ok hrow]
  refine .bind hfind fun oldResource ctx _ hread => ?_
  have hencrypt : Program.Follows
      (fun _ => UndisturbedReplacement lawful resourceId data) (DocumentsGrow lawful)
      (fun encrypted state => state = ctx ∧ plainValue encrypted = textValue data) ctx
      (liftCrypto (CryptoUtils.updateResource env.cert data
        oldResource.encryptedKey)) := by
    refine .ofExcept fun encrypted hencrypted => ⟨rfl, ?_⟩
    obtain ⟨key, rfl⟩ := updateResource_ok (mapError_eq_ok.mp hencrypted)
    rfl
  refine .bind hencrypt fun encrypted state _ ⟨hstate, hplain⟩ => ?_
  subst hstate
  have hwritten : Program.Follows
      (fun _ => UndisturbedReplacement lawful resourceId data) (DocumentsGrow lawful)
      (fun _ ctx => lawful.documentContent (textValue data) ≤
        documents lawful ctx resourceId) state
      (update (ResourceRepo.updateResource env.now encrypted resourceId)) := by
    refine update_follows fun found written hreach hwrite hupdate => ⟨?_, ?_⟩
    · refine .updateResource lawful hupdate fun hchanged => ?_
      rw [hplain]
      exact hwrite hchanged
    · rw [documents_updateResource lawful (hreach.resources resourceId hread) hupdate,
        hplain]
  refine .bind hwritten fun _ written _ hcontent => ?_
  refine .kept ?_ fun _ ctx hreach => hcontent.trans (hreach.content resourceId)
  refine .bind (drawId_follows lawful env) fun clockId _ _ _ => ?_
  refine .bind (incrementVectorClock_follows lawful) fun _ _ _ _ => ?_
  refine .bind (query_follows fun _ _ _ _ _ => trivial) fun row _ _ _ => ?_
  exact .ofExcept fun _ _ => trivial

theorem EditCall.body_follows {yrs : Yrs} (lawful : LawfulYrs yrs L) (call : EditCall)
    (hyrs : call.env.libraries.yrs = yrs) (since : RepositoryContext) :
    Program.Follows (call.Undisturbed lawful) (DocumentsGrow lawful)
      (fun _ ctx => call.brings lawful ≤ documents lawful ctx call.resourceId)
      since call.body := by
  subst hyrs
  obtain ⟨env, resourceId, userId, edit⟩ := call
  cases edit with
  | updateResource data currentDeviceId =>
      exact .bind (updateResource_follows env lawful resourceId userId data
        currentDeviceId) fun _ _ _ hgood => .pure hgood
  | applyUpdates updates =>
      exact applyUpdates_follows env lawful resourceId userId updates
  | applyUpdatesAndGetPeerUpdates updates =>
      exact .bind (applyUpdatesAndGetPeerUpdates_follows env lawful resourceId userId
        updates) fun _ _ _ hgood => .pure hgood

def afterEdits (start : RepositoryContext) (events : List (PoolEvent EditCall)) :
    Pool EditCall RepositoryContext ServiceError PUnit :=
  run (Pool.step EditCall.body) { state := start } events

/-- In every interleaving in which no step overwrites what it does not contain,
the stored documents contain the updates of each call that has succeeded. -/
theorem undisturbed_edits_stored {yrs : Yrs} (lawful : LawfulYrs yrs L)
    (start : RepositoryContext) (events : List (PoolEvent EditCall))
    (hyrs : ∀ call, .start call ∈ events → call.env.libraries.yrs = yrs)
    (hundisturbed : ∀ earlier index, earlier ++ [.advance index] <+: events →
      Pool.StepAllowed (EditCall.Undisturbed lawful) index
        (afterEdits start earlier)) :
    ∀ task ∈ (afterEdits start events).running, task.left = .done (.ok .unit) →
      task.call.brings lawful ≤
        documents lawful (afterEdits start events).state task.call.resourceId := by
  intro task htask hdone
  have hfinal := (Pool.allowed_run (fun call hcall =>
    call.body_follows lawful (hyrs call hcall)) hundisturbed events
      List.prefix_rfl).2 task htask
  exact hfinal.result (fun ctx ctx' hreach hgood =>
    hgood.trans (hreach.content task.call.resourceId)) hdone

end Calls

def editorEnv : ServiceEnv :=
  { libraries := .tabled [], cert := some "R", now := 0, domain := "livnote"
    fuel := 8 }

def editedStore : RepositoryContext :=
  { resources := [.new "a" 0 .notes (.sealed "k" (.encoded (.object
      [("main_doc", .ofBytes [1])]))) "folder" "" "R"]
    resourceKeys := [.new "key-R" 0 "a" "R" (.sealed "R" "k") true] }

def peerUpdate (bits : UInt8) : EditCall :=
  { env := editorEnv, resourceId := "a", userId := "R"
    edit := .applyUpdates (.encoded (.object
      [("main_doc", DecryptedResource.documentEntry [bits] [])])) }

def overlappingEdits : List (PoolEvent EditCall) :=
  [.start (peerUpdate 2), .start (peerUpdate 4), .advance 0, .advance 1,
    .advance 0, .advance 1]

/-- The first call succeeds, and its update is not in the stored document. -/
theorem overlapping_update_lost :
    ∃ task ∈ (afterEdits editedStore overlappingEdits).running,
      task.left = .done (.ok .unit) ∧
        ¬task.call.brings Yrs.lawfulBits ≤
          documents Yrs.lawfulBits (afterEdits editedStore overlappingEdits).state
            task.call.resourceId := by
  obtain ⟨first, second, hrunning, hcall, hleft⟩ : ∃ first second,
      (afterEdits editedStore overlappingEdits).running = [first, second] ∧
        first.call = peerUpdate 2 ∧ first.left = .done (.ok .unit) :=
    ⟨_, _, rfl, rfl, rfl⟩
  refine ⟨first, by rw [hrunning]; exact List.mem_cons_self, hleft, ?_⟩
  rw [hcall]
  intro hcontained
  have hmain : ((updateBits 2 : Fin 8 → Bool) : WithBot (Fin 8 → Bool)) ≤
      (updateBits 5 : Fin 8 → Bool) := hcontained "main_doc"
  exact absurd (WithBot.coe_le_coe.mp hmain 1) (by decide)

def successiveEdits : List (PoolEvent EditCall) :=
  [.start (peerUpdate 2), .advance 0, .advance 0, .start (peerUpdate 4), .advance 1,
    .advance 1]

theorem peerUpdate_stored {ctx : RepositoryContext} {bits : UInt8} {resource : Resource}
    (hresource : ResourceRepo.resource? ctx "a" = some resource)
    (hnotes : resource.resourceType = .notes)
    (hbytes : ((plainValue resource.data).documentBytes "main_doc").isSome) :
    Stored "a" (.encoded (.object
      [("main_doc", DecryptedResource.documentEntry [bits] [])])) ctx := by
  intro input stateKey hinput hupdates
  cases hinput
  by_cases hmain : "main_doc" = stateKey
  · subst hmain
    exact ⟨resource, hresource, by simp [hnotes, ResourceType.documentStateKeys], hbytes⟩
  · simp [entryUpdates, Value.get, hmain] at hupdates

theorem successive_undisturbed :
    EachEvent (Pool.EventAllowed EditCall.body editedStore
      (EditCall.Undisturbed Yrs.lawfulBits)) [] successiveEdits := by
  refine ⟨Pool.eventAllowed_start _, ?_, ?_, Pool.eventAllowed_start _, ?_, ?_, trivial⟩
  all_goals
    refine Pool.eventAllowed_advance rfl rfl ?_
    exact ⟨peerUpdate_stored rfl rfl rfl, fun _ => rfl⟩

/-- Both calls succeed and both updates are stored. -/
theorem undisturbed_edits_stored_successive :
    (afterEdits editedStore successiveEdits).running.length = 2 ∧
      ∀ task ∈ (afterEdits editedStore successiveEdits).running,
        task.left = .done (.ok .unit) →
          task.call.brings Yrs.lawfulBits ≤
            documents Yrs.lawfulBits (afterEdits editedStore successiveEdits).state
              task.call.resourceId := by
  refine ⟨rfl, undisturbed_edits_stored Yrs.lawfulBits editedStore successiveEdits ?_
    fun earlier index hearlier => successive_undisturbed.of_prefix hearlier index rfl⟩
  intro call hcall
  simp only [successiveEdits, List.mem_cons, PoolEvent.start.injEq, reduceCtorEq,
    List.not_mem_nil, or_false, false_or] at hcall
  rcases hcall with rfl | rfl <;> rfl

end Osvauld.Services
