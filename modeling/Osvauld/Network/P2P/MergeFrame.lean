import Osvauld.Network.P2P.UpdateGate
import Osvauld.Persistance.ResourceFrame

namespace Osvauld.Network

open Osvauld.Core Data Data.KeyedInserts Persistance Services

/-! Which rows a merge message may change. -/

theorem newRows_withoutId {Row : Type} {id : Row → String} {rows remote held : List Row}
    (hheld : ∀ row ∈ held, row ∈ rows) :
    newRows id rows (withoutId id remote held) = newRows id rows remote := by
  refine newRows_filter fun row _ hskipped => ?_
  simp only [Bool.not_eq_false', List.any_eq_true, decide_eq_true_eq] at hskipped
  obtain ⟨other, hother, hid⟩ := hskipped
  exact hid ▸ List.mem_map_of_mem (hheld other hother)

section Performs

variable {α : Type} {write : RepositoryContext → Except RepositoryError RepositoryContext}
variable {session : Session}

def Performs (handler : Handler α)
    (write : RepositoryContext → Except RepositoryError RepositoryContext)
    (session : Session) : Prop :=
  match write session.repo with
  | .ok repo => ∃ value, handler.run session = (.ok value, { session with repo })
  | .error _ => ∃ error, handler.run session = (.error error, session)

theorem performs_updateRepo : Performs (updateRepo write) write session := by
  unfold Performs updateRepo
  rw [Program.run_write]
  cases write session.repo with
  | ok repo => exact ⟨.unit, rfl⟩
  | error error => exact ⟨_, rfl⟩

def outcomeOf (write : RepositoryContext → Except RepositoryError RepositoryContext)
    (value : α) (ctx : RepositoryContext) : Except ServiceError α × RepositoryContext :=
  match write ctx with
  | .ok ctx' => (.ok value, ctx')
  | .error error => (.error (.repository error), ctx)

theorem run_update (ctx : RepositoryContext) :
    (update write).run ctx = outcomeOf write .unit ctx := by
  unfold update outcomeOf
  rw [Program.run_write]
  cases write ctx <;> rfl

theorem performs_callService {service : Service α} {value : α}
    (hrun : service.run session.repo = outcomeOf write value session.repo) :
    Performs (callService service) write session := by
  unfold Performs
  rw [run_callService, hrun, outcomeOf]
  cases write session.repo with
  | ok repo => exact ⟨value, rfl⟩
  | error error => exact ⟨_, rfl⟩

theorem Performs.andThen {handler : Handler α} {rest : α → Handler PUnit}
    {admitted : Prop} {after : RepositoryContext} (hperforms : Performs handler write session)
    (hwrite : ∀ ctx', write session.repo = .ok ctx' ↔ admitted ∧ ctx' = after) :
    (admitted ∧ ∃ value, ((handler >>= rest).run session).2 =
        ((rest value).run { session with repo := after }).2) ∨
      ¬admitted ∧ ((handler >>= rest).run session).2 = session := by
  unfold Performs at hperforms
  rw [Program.run_bind]
  cases hresult : write session.repo with
  | ok ctx' =>
      obtain ⟨hadmitted, rfl⟩ := (hwrite ctx').mp hresult
      rw [hresult] at hperforms
      obtain ⟨value, hvalue⟩ := hperforms
      exact .inl ⟨hadmitted, value, by rw [hvalue, Program.andThen_ok]⟩
  | error error =>
      rw [hresult] at hperforms
      obtain ⟨failure, hfailure⟩ := hperforms
      refine .inr ⟨fun hadmitted => ?_, by rw [hfailure, Program.andThen_error]⟩
      cases hresult.symm.trans ((hwrite after).mpr ⟨hadmitted, rfl⟩)

theorem Performs.last {handler : Handler PUnit} {admitted : Prop} {after : RepositoryContext}
    (hperforms : Performs handler write session)
    (hwrite : ∀ ctx', write session.repo = .ok ctx' ↔ admitted ∧ ctx' = after) :
    (admitted ∧ (handler.run session).2 = { session with repo := after }) ∨
      ¬admitted ∧ (handler.run session).2 = session := by
  have hthen := @Performs.andThen _ _ _ _ (fun _ => pure .unit) _ _ hperforms hwrite
  rw [Program.bind_pure] at hthen
  exact hthen.imp_left fun ⟨hadmitted, _, hafter⟩ => ⟨hadmitted, hafter⟩

end Performs

section Steps

variable (session : Session) (rest : PUnit → Handler PUnit)

theorem updateVectorClocks_step (updates additions : List ResourceVectorClock) :
    let handler := callService (updateVectorClocks additions updates) >>= rest
    (ClocksAdmitted session.repo additions ∧
        (handler.run session).2 = ((rest .unit).run { session with
          repo := { session.repo with
            vectorClocks := clocksAfter session.repo updates additions } }).2) ∨
      ¬ClocksAdmitted session.repo additions ∧ (handler.run session).2 = session :=
  ((performs_callService (run_update session.repo)).andThen
    fun _ => updateVectorClocks_eq_ok_iff).imp_left
      fun ⟨hadmitted, _, hrun⟩ => ⟨hadmitted, hrun⟩

theorem addShareRecords_step (records : List ShareRecord) :
    let handler := callService (addShareRecords records) >>= rest
    (ShareRecordsAdmitted session.repo records ∧
        (handler.run session).2 = ((rest .unit).run { session with
          repo := { session.repo with
            shareRecords := session.repo.shareRecords ++
              newRows ShareRecord.id session.repo.shareRecords records } }).2) ∨
      ¬ShareRecordsAdmitted session.repo records ∧ (handler.run session).2 = session :=
  ((performs_callService (run_update session.repo)).andThen
    fun _ => saveMany_eq_ok_iff).imp_left fun ⟨hadmitted, _, hrun⟩ => ⟨hadmitted, hrun⟩

theorem addResourceKeys_step (keys : List ResourceKey) :
    let handler := updateRepo (ResourceKeyRepo.addResourceKeys keys) >>= rest
    (KeysAdmitted session.repo keys ∧
        (handler.run session).2 = ((rest .unit).run { session with
          repo := { session.repo with
            resourceKeys := session.repo.resourceKeys ++
              newRows ResourceKey.id session.repo.resourceKeys keys } }).2) ∨
      ¬KeysAdmitted session.repo keys ∧ (handler.run session).2 = session :=
  (performs_updateRepo.andThen fun _ => addResourceKeys_eq_ok_iff).imp_left
    fun ⟨hadmitted, _, hrun⟩ => ⟨hadmitted, hrun⟩

end Steps

/-- Of the lists of the response, up to the first that the constraints reject, each
keeps to the resource. -/
def ResponseStays (resourceId : String) (ctx : RepositoryContext)
    (updateClock addClock : List ResourceVectorClock) (shareRecords : List ShareRecord)
    (resourceKeys : List ResourceKey) : Prop :=
  ClocksAdmitted ctx addClock → OwnClocks resourceId ctx.vectorClocks updateClock addClock ∧
    (ShareRecordsAdmitted ctx shareRecords → OwnShareRecords resourceId ctx shareRecords ∧
      (KeysAdmitted ctx resourceKeys → OwnKeys resourceId ctx resourceKeys))

theorem processVectorClockResponse_touches_iff (resourceId : String)
    (updateClock addClock : List ResourceVectorClock) (shareRecords : List ShareRecord)
    (resourceKeys : List ResourceKey) (session : Session) :
    OnlyTouches resourceId session.repo
        ((processVectorClockResponse updateClock addClock shareRecords resourceKeys).run
          session).2.repo ↔
      ResponseStays resourceId session.repo updateClock addClock shareRecords
        resourceKeys := by
  unfold processVectorClockResponse ResponseStays
  rcases updateVectorClocks_step session _ updateClock addClock
    with ⟨hclocks, hrun⟩ | ⟨hrejected, hrun⟩
  · rw [hrun]
    rcases addShareRecords_step _ _ shareRecords with ⟨hshares, hrun⟩ | ⟨hrejected, hrun⟩
    · rw [hrun]
      have hshares : ShareRecordsAdmitted session.repo shareRecords := hshares
      rcases performs_updateRepo.last (fun _ => addResourceKeys_eq_ok_iff)
        with ⟨hkeys, hrun⟩ | ⟨hrejected, hrun⟩
      · rw [hrun]
        have hkeys : KeysAdmitted session.repo resourceKeys := hkeys
        simp only [hclocks, hshares, hkeys, true_imp_iff]
        refine onlyTouches_iff.trans ?_
        rw [rowsApart_clocksAfter_eq_iff, rowsApart_append_eq_iff, rowsApart_append_eq_iff]
        simp only [OwnShareRecords, OwnKeys, true_and]
        tauto
      · rw [hrun]
        have hrejected : ¬KeysAdmitted session.repo resourceKeys := hrejected
        simp only [hclocks, hshares, hrejected, true_imp_iff, false_imp_iff, and_true]
        refine onlyTouches_iff.trans ?_
        rw [rowsApart_clocksAfter_eq_iff, rowsApart_append_eq_iff]
        simp only [OwnShareRecords, true_and]
        tauto
    · rw [hrun]
      have hrejected : ¬ShareRecordsAdmitted session.repo shareRecords := hrejected
      simp only [hclocks, hrejected, true_imp_iff, false_imp_iff, and_true]
      refine onlyTouches_iff.trans ?_
      rw [rowsApart_clocksAfter_eq_iff]
      simp only [true_and]
  · rw [hrun]
    simp only [hrejected, false_imp_iff, iff_true]
    exact .refl _ _

def Mergeable (env : ServiceEnv) (resourceId userId : String) (updates : JsonText)
    (ctx : RepositoryContext) : Prop :=
  ∃ row resource merged encrypted,
    ResourceRepo.findById resourceId userId ctx = .ok row ∧
      decryptSingleResource env row = .ok resource ∧
        resource.syncUpdates env.libraries.yrs updates = .ok merged ∧
          CryptoUtils.updateResource env.cert (.encoded merged.1.data) row.encryptedKey =
            .ok encrypted

def withData (now : Int) (data : AesText) (resourceId : String) (ctx : RepositoryContext) :
    RepositoryContext :=
  { ctx with
    resources := ctx.resources.map fun resource =>
      if resource.id = resourceId then ResourceRepo.setData data now resource else resource }

theorem applyUpdates_run (env : ServiceEnv) (resourceId userId : String)
    (updates : JsonText) (ctx : RepositoryContext) :
    (Mergeable env resourceId userId updates ctx ∧
        ∃ data, (applyUpdates env resourceId updates userId).run ctx =
          (.ok .unit, withData env.now data resourceId ctx)) ∨
      ¬Mergeable env resourceId userId updates ctx ∧
        ∃ error, (applyUpdates env resourceId updates userId).run ctx =
          (.error error, ctx) := by
  unfold applyUpdates applyUpdatesAndGetPeerUpdates getResource Mergeable
  simp only [Program.run_bind, query, Program.run_read]
  cases hfind : ResourceRepo.findById resourceId userId ctx with
  | error error =>
      refine .inr ⟨?_, _, rfl⟩
      rintro ⟨_, _, _, _, hfound, _⟩
      cases hfound
  | ok row =>
      simp only [Except.mapError, Program.andThen_ok, Program.run_bind, liftCrypto,
        Program.run_ofExcept]
      cases hdecrypt : decryptSingleResource env row with
      | error error =>
          refine .inr ⟨?_, _, rfl⟩
          rintro ⟨_, _, _, _, hfound, hdecrypted, _⟩
          cases hfound
          cases hdecrypt.symm.trans hdecrypted
      | ok resource =>
          simp only [Program.andThen_ok, Program.run_pure, liftParse]
          cases hsync : resource.syncUpdates env.libraries.yrs updates with
          | error error =>
              refine .inr ⟨?_, _, rfl⟩
              rintro ⟨_, _, _, _, hfound, hdecrypted, hmerged, _⟩
              cases hfound
              cases hdecrypt.symm.trans hdecrypted
              cases hsync.symm.trans hmerged
          | ok merged =>
              simp only [Except.mapError, Program.andThen_ok, Program.run_bind,
                Program.run_ofExcept]
              cases hencrypt : CryptoUtils.updateResource env.cert
                (.encoded merged.1.data) row.encryptedKey with
              | error error =>
                  refine .inr ⟨?_, _, rfl⟩
                  rintro ⟨_, _, _, _, hfound, hdecrypted, hmerged, hencrypted⟩
                  cases hfound
                  cases hdecrypt.symm.trans hdecrypted
                  cases hsync.symm.trans hmerged
                  cases hencrypt.symm.trans hencrypted
              | ok encrypted =>
                  exact .inl ⟨⟨row, resource, merged, encrypted, rfl, hdecrypt, hsync,
                    hencrypt⟩, encrypted, rfl⟩

def raisedClocks (ctx : RepositoryContext) (resourceId : String)
    (received : List ResourceVectorClock) : List ResourceVectorClock :=
  received.filterMap (ResourceVectorClock.raisedBy? (ResourceRepo.clocksOf ctx resourceId))

def newClocks (ctx : RepositoryContext) (resourceId : String)
    (received : List ResourceVectorClock) : List ResourceVectorClock :=
  received.filter (ResourceVectorClock.missingIn (ResourceRepo.clocksOf ctx resourceId))

theorem mergeVectorClocks_run (resourceId : String) (received : List ResourceVectorClock)
    (ctx : RepositoryContext) :
    ∃ value, (mergeVectorClocks resourceId received).run ctx =
      outcomeOf (VectorClockRepo.updateVectorClocks (raisedClocks ctx resourceId received)
        (newClocks ctx resourceId received)) value ctx := by
  unfold mergeVectorClocks
  have hclocks : (query (VectorClockRepo.getVectorClocksForResource resourceId)).run ctx =
      (.ok (ResourceRepo.clocksOf ctx resourceId), ctx) := rfl
  rw [Program.run_bind, hclocks, Program.andThen_ok]
  have hmerge := ResourceVectorClock.merge_eq (ResourceRepo.clocksOf ctx resourceId) received
  have hupdate : (ResourceVectorClock.merge (ResourceRepo.clocksOf ctx resourceId)
      received).updateLocal = raisedClocks ctx resourceId received := by rw [hmerge]; rfl
  have hadd : (ResourceVectorClock.merge (ResourceRepo.clocksOf ctx resourceId)
      received).addLocal = newClocks ctx resourceId received := by rw [hmerge]; rfl
  have hneeds := ResourceVectorClock.merge_localNeedsUpdate_iff
    (ResourceRepo.clocksOf ctx resourceId) received
  rw [hupdate, hadd] at hneeds
  generalize ResourceVectorClock.merge (ResourceRepo.clocksOf ctx resourceId) received =
    result at hupdate hadd hneeds ⊢
  refine ⟨(result.addRemote, result.updateRemote), ?_⟩
  by_cases hflag : result.localNeedsUpdate = true
  · simp only [hflag, if_true, hupdate, hadd, Program.run_bind, run_update, outcomeOf]
    cases VectorClockRepo.updateVectorClocks (raisedClocks ctx resourceId received)
      (newClocks ctx resourceId received) ctx <;> rfl
  · -- With nothing to change, the write that is left out would succeed.
    obtain ⟨hnone, hnone'⟩ := not_not.mp (mt hneeds.mpr hflag)
    have hnothing : VectorClockRepo.updateVectorClocks [] [] ctx = .ok ctx := rfl
    simp only [hflag, hnone, hnone', outcomeOf, hnothing]
    rfl

theorem mergeShareRecords_run (resourceId : String) (received : List ShareRecord)
    (ctx : RepositoryContext) :
    ∃ value, (mergeShareRecords resourceId received).run ctx =
      outcomeOf (ShareRepo.saveMany (withoutId ShareRecord.id received
        (ctx.shareRecords.filter fun record => record.resourceId = resourceId))) value ctx := by
  unfold mergeShareRecords
  have hrecords : (query (ShareRepo.findByResource resourceId)).run ctx =
      (.ok (ctx.shareRecords.filter fun record => record.resourceId = resourceId), ctx) := rfl
  rw [Program.run_bind, hrecords, Program.andThen_ok]
  refine ⟨withoutId ShareRecord.id (ctx.shareRecords.filter fun record =>
    record.resourceId = resourceId) received, ?_⟩
  rw [Program.run_bind, run_update, outcomeOf, outcomeOf]
  cases ShareRepo.saveMany (withoutId ShareRecord.id received
    (ctx.shareRecords.filter fun record => record.resourceId = resourceId)) ctx <;> rfl

section Admitted

variable {ctx : RepositoryContext}

section WithData

variable (now : Int) (data : AesText) (resourceId : String)

theorem resourceExists_withData :
    resourceExists (withData now data resourceId ctx) = resourceExists ctx := by
  funext id
  unfold resourceExists withData
  rw [List.any_map]
  refine List.any_congr rfl fun resource => ?_
  by_cases hresource : resource.id = resourceId <;>
    simp [hresource, ResourceRepo.setData]

theorem keysAdmitted_withData (keys : List ResourceKey) :
    KeysAdmitted (withData now data resourceId ctx) keys ↔ KeysAdmitted ctx keys := by
  have hreferenced : Table.resourceKeys.referenced (withData now data resourceId ctx) =
      Table.resourceKeys.referenced ctx := by
    simp only [Table.resourceKeys, resourceExists_withData]
    rfl
  unfold KeysAdmitted Table.Admits
  rw [hreferenced]
  rfl

theorem shareRecordsAdmitted_withData (records : List ShareRecord) :
    ShareRecordsAdmitted (withData now data resourceId ctx) records ↔
      ShareRecordsAdmitted ctx records := by
  have hreferenced : Table.shareRecords.referenced (withData now data resourceId ctx) =
      Table.shareRecords.referenced ctx := by
    simp only [Table.shareRecords, resourceExists_withData]
    rfl
  unfold ShareRecordsAdmitted Table.Admits
  rw [hreferenced]
  rfl

theorem clocksAdmitted_withData (additions : List ResourceVectorClock) :
    ClocksAdmitted (withData now data resourceId ctx) additions ↔
      ClocksAdmitted ctx additions := by
  have hreferenced : Table.vectorClocks.referenced (withData now data resourceId ctx) =
      Table.vectorClocks.referenced ctx := by
    simp only [Table.vectorClocks, resourceExists_withData]
    rfl
  unfold ClocksAdmitted Table.AdmitsAll
  rw [hreferenced]
  rfl

theorem rowsApart_withData :
    rowsApart Resource.id resourceId (withData now data resourceId ctx).resources =
      rowsApart Resource.id resourceId ctx.resources := by
  have hsame := @rowsApart_eq_iff _ Resource.id resourceId ctx.resources []
    (fun resource => if resource.id = resourceId then
      ResourceRepo.setData data now resource else resource) fun resource => by
        by_cases hresource : resource.id = resourceId <;>
          simp [hresource, ResourceRepo.setData]
  rw [List.append_nil] at hsame
  exact hsame.mpr ⟨fun resource _ hother => if_neg hother, by simp⟩

end WithData

theorem keysAdmitted_withoutId {keys held : List ResourceKey}
    (hheld : ∀ key ∈ held, key ∈ ctx.resourceKeys) :
    KeysAdmitted ctx (withoutId ResourceKey.id keys held) ↔ KeysAdmitted ctx keys := by
  have hnew : newRows Table.resourceKeys.id (Table.resourceKeys.rows ctx)
      (withoutId ResourceKey.id keys held) =
        newRows Table.resourceKeys.id (Table.resourceKeys.rows ctx) keys :=
    newRows_withoutId hheld
  unfold KeysAdmitted Table.Admits
  rw [hnew]

theorem shareRecordsAdmitted_withoutId {records held : List ShareRecord}
    (hheld : ∀ record ∈ held, record ∈ ctx.shareRecords) :
    ShareRecordsAdmitted ctx (withoutId ShareRecord.id records held) ↔
      ShareRecordsAdmitted ctx records := by
  have hnew : newRows Table.shareRecords.id (Table.shareRecords.rows ctx)
      (withoutId ShareRecord.id records held) =
        newRows Table.shareRecords.id (Table.shareRecords.rows ctx) records :=
    newRows_withoutId hheld
  unfold ShareRecordsAdmitted Table.Admits
  rw [hnew]

end Admitted

def Identified (env : NetworkEnv) (device : Device) : Prop :=
  ∃ a b c d rest,
    env.libraries.ucan.encodings.base64Decode device.id = .ok (a :: b :: c :: d :: rest)

theorem getClientId_run (env : NetworkEnv) (device : Device) (session : Session) :
    (Identified env device ∧
        ∃ clientId, (getClientId env device).run session = (.ok clientId, session)) ∨
      ¬Identified env device ∧
        ∃ error, (getClientId env device).run session = (.error error, session) := by
  unfold getClientId Identified
  split
  · next message hdecode =>
      refine .inr ⟨?_, _, rfl⟩
      rintro ⟨_, _, _, _, _, hbytes⟩
      cases hdecode.symm.trans hbytes
  · next a b c d rest hdecode => exact .inl ⟨⟨a, b, c, d, rest, hdecode⟩, _, rfl⟩
  · next bytes hshort hdecode =>
      refine .inr ⟨?_, _, rfl⟩
      rintro ⟨a, b, c, d, rest, hbytes⟩
      exact hshort a b c d rest (Except.ok.inj (hdecode.symm.trans hbytes))

theorem mergeVectorClocks_step (session : Session) (resourceId : String)
    (received : List ResourceVectorClock)
    (rest : List ResourceVectorClock × List ResourceVectorClock → Handler PUnit) :
    let handler := callService (mergeVectorClocks resourceId received) >>= rest
    let raised := raisedClocks session.repo resourceId received
    let added := newClocks session.repo resourceId received
    (ClocksAdmitted session.repo added ∧
        ∃ value, (handler.run session).2 = ((rest value).run { session with
          repo := { session.repo with
            vectorClocks := clocksAfter session.repo raised added } }).2) ∨
      ¬ClocksAdmitted session.repo added ∧ (handler.run session).2 = session := by
  obtain ⟨value, hrun⟩ := mergeVectorClocks_run resourceId received session.repo
  exact (performs_callService hrun).andThen fun _ => updateVectorClocks_eq_ok_iff

theorem mergeShareRecords_step (session : Session) (resourceId : String)
    (received : List ShareRecord) (rest : List ShareRecord → Handler PUnit) :
    let handler := callService (mergeShareRecords resourceId received) >>= rest
    (ShareRecordsAdmitted session.repo received ∧
        ∃ value, (handler.run session).2 = ((rest value).run { session with
          repo := { session.repo with
            shareRecords := session.repo.shareRecords ++
              newRows ShareRecord.id session.repo.shareRecords received } }).2) ∨
      ¬ShareRecordsAdmitted session.repo received ∧ (handler.run session).2 = session := by
  obtain ⟨value, hrun⟩ := mergeShareRecords_run resourceId received session.repo
  have hheld : ∀ record ∈ session.repo.shareRecords.filter fun record =>
      record.resourceId = resourceId, record ∈ session.repo.shareRecords :=
    fun record hrecord => (List.mem_filter.mp hrecord).1
  refine (performs_callService hrun).andThen fun ctx' => ?_
  rw [saveMany_eq_ok_iff, shareRecordsAdmitted_withoutId hheld, newRows_withoutId hheld]

/-- The document comes first. Of the lists after it, up to the first that the
constraints reject, each keeps to the resource. -/
def FinalMergeStays (env : NetworkEnv) (user : User) (resourceId : String)
    (updates : JsonText) (vectorClocks : List ResourceVectorClock)
    (shareRecords : List ShareRecord) (resourceKeys : List ResourceKey)
    (session : Session) : Prop :=
  let ctx := session.repo
  Mergeable env.toServiceEnv resourceId user.id updates ctx →
    Identified env session.connection.device →
      KeysAdmitted ctx resourceKeys → OwnKeys resourceId ctx resourceKeys ∧
        (ClocksAdmitted ctx (newClocks ctx resourceId vectorClocks) →
          OwnClocks resourceId ctx.vectorClocks (raisedClocks ctx resourceId vectorClocks)
              (newClocks ctx resourceId vectorClocks) ∧
            (ShareRecordsAdmitted ctx shareRecords →
              OwnShareRecords resourceId ctx shareRecords))

def mergeReceived (resourceId : String) (vectorClocks : List ResourceVectorClock)
    (shareRecords : List ShareRecord) (resourceKeys : List ResourceKey) :
    Handler PUnit := do
  let localResourceKeys ← callService (getResourceKeysForResource resourceId)
  let (localMissing, remoteMissing) :=
    findMissingResourceKeys localResourceKeys resourceKeys
  updateRepo (ResourceKeyRepo.addResourceKeys localMissing)
  let (addClock, updateClock) ← callService
    (mergeVectorClocks resourceId vectorClocks)
  let remoteShareRecords ← callService
    (mergeShareRecords resourceId shareRecords)
  sendMessage (.mergeUpdate (.vectorClockResponse resourceId updateClock addClock
    remoteShareRecords remoteMissing))

theorem mergeReceived_touches_iff (resourceId : String)
    (vectorClocks : List ResourceVectorClock) (shareRecords : List ShareRecord)
    (resourceKeys : List ResourceKey) (session : Session) :
    let ctx := session.repo
    OnlyTouches resourceId ctx
        ((mergeReceived resourceId vectorClocks shareRecords resourceKeys).run
          session).2.repo ↔
      (KeysAdmitted ctx resourceKeys → OwnKeys resourceId ctx resourceKeys ∧
        (ClocksAdmitted ctx (newClocks ctx resourceId vectorClocks) →
          OwnClocks resourceId ctx.vectorClocks (raisedClocks ctx resourceId vectorClocks)
              (newClocks ctx resourceId vectorClocks) ∧
            (ShareRecordsAdmitted ctx shareRecords →
              OwnShareRecords resourceId ctx shareRecords))) := by
  intro ctx
  have hheld : ∀ key ∈ ctx.resourceKeys.filter fun key => key.resourceId = resourceId,
      key ∈ ctx.resourceKeys := fun key hkey => (List.mem_filter.mp hkey).1
  have hlocal : (callService (getResourceKeysForResource resourceId)).run session =
      (.ok (ctx.resourceKeys.filter fun key => key.resourceId = resourceId), session) := rfl
  unfold mergeReceived
  rw [Program.run_bind, hlocal, Program.andThen_ok, findMissingResourceKeys]
  dsimp only
  rcases addResourceKeys_step session _ (withoutId ResourceKey.id resourceKeys
      (ctx.resourceKeys.filter fun key => key.resourceId = resourceId))
    with ⟨hkeys, hrun⟩ | ⟨hrejected, hrun⟩
  · rw [hrun, newRows_withoutId hheld]
    rw [keysAdmitted_withoutId hheld] at hkeys
    rcases mergeVectorClocks_step _ resourceId vectorClocks _
      with ⟨hclocks, changes, hrun⟩ | ⟨hrejected, hrun⟩
    · rw [hrun]
      have hclocks : ClocksAdmitted ctx (newClocks ctx resourceId vectorClocks) := hclocks
      rcases mergeShareRecords_step _ resourceId shareRecords _
        with ⟨hshares, remote, hrun⟩ | ⟨hrejected, hrun⟩
      · rw [hrun, sendMessage, run_changeConnection]
        have hshares : ShareRecordsAdmitted ctx shareRecords := hshares
        simp only [hkeys, hclocks, hshares, true_imp_iff]
        refine onlyTouches_iff.trans ?_
        rw [rowsApart_append_eq_iff, rowsApart_append_eq_iff]
        constructor
        · rintro ⟨_, hownKeys, hownShares, hownClocks⟩
          exact ⟨hownKeys, rowsApart_clocksAfter_eq_iff.mp hownClocks, hownShares⟩
        · rintro ⟨hownKeys, hownClocks, hownShares⟩
          exact ⟨rfl, hownKeys, hownShares, rowsApart_clocksAfter_eq_iff.mpr hownClocks⟩
      · rw [hrun]
        have hrejected : ¬ShareRecordsAdmitted ctx shareRecords := hrejected
        simp only [hkeys, hclocks, hrejected, true_imp_iff, false_imp_iff, and_true]
        refine onlyTouches_iff.trans ?_
        rw [rowsApart_append_eq_iff]
        constructor
        · rintro ⟨_, hownKeys, _, hownClocks⟩
          exact ⟨hownKeys, rowsApart_clocksAfter_eq_iff.mp hownClocks⟩
        · rintro ⟨hownKeys, hownClocks⟩
          exact ⟨rfl, hownKeys, rfl, rowsApart_clocksAfter_eq_iff.mpr hownClocks⟩
    · rw [hrun]
      have hrejected : ¬ClocksAdmitted ctx (newClocks ctx resourceId vectorClocks) := hrejected
      simp only [hkeys, hrejected, true_imp_iff, false_imp_iff, and_true]
      refine onlyTouches_iff.trans ?_
      rw [rowsApart_append_eq_iff]
      constructor
      · rintro ⟨_, hownKeys, _⟩
        exact hownKeys
      · exact fun hownKeys => ⟨rfl, hownKeys, rfl, rfl⟩
  · rw [hrun]
    rw [keysAdmitted_withoutId hheld] at hrejected
    simp only [hrejected, false_imp_iff, iff_true]
    exact .refl _ _

theorem processFinalUpdateMerge_touches_iff (env : NetworkEnv) (user : User)
    (resourceId : String) (updates : JsonText) (vectorClocks : List ResourceVectorClock)
    (shareRecords : List ShareRecord) (resourceKeys : List ResourceKey)
    (session : Session) :
    OnlyTouches resourceId session.repo
        ((processFinalUpdateMerge env user resourceId updates vectorClocks shareRecords
          resourceKeys).run session).2.repo ↔
      FinalMergeStays env user resourceId updates vectorClocks shareRecords resourceKeys
        session := by
  have hunfold : processFinalUpdateMerge env user resourceId updates vectorClocks
      shareRecords resourceKeys = (do
        callService (applyUpdates env.toServiceEnv resourceId updates user.id)
        let peerDevice ← getPeerDevice
        let clientId ← getClientId env peerDevice
        emit (.updatesEvent resourceId updates clientId)
        mergeReceived resourceId vectorClocks shareRecords resourceKeys) := rfl
  rw [hunfold, FinalMergeStays, Program.run_bind, run_callService]
  rcases applyUpdates_run env.toServiceEnv resourceId user.id updates session.repo
    with ⟨hmergeable, data, hrun⟩ | ⟨hfailed, error, hrun⟩
  swap
  · rw [hrun]
    simp only [Except.mapError, Program.andThen_error, hfailed, false_imp_iff, iff_true]
    exact .refl _ _
  have hdata : OnlyTouches resourceId session.repo
      (withData env.now data resourceId session.repo) :=
    onlyTouches_iff.mpr ⟨rowsApart_withData _ _ _, rfl, rfl, rfl⟩
  simp only [hrun, Except.mapError, Program.andThen_ok, Program.run_bind, getPeerDevice,
    run_readConnection]
  rcases getClientId_run env session.connection.device
      { session with repo := withData env.now data resourceId session.repo }
    with ⟨hidentified, clientId, hrun⟩ | ⟨hunidentified, error, hrun⟩
  swap
  · rw [hrun]
    simp only [Program.andThen_error, hunidentified, false_imp_iff, implies_true, iff_true]
    exact hdata
  simp only [hrun, Program.andThen_ok, Program.run_bind, emit, run_changeConnection]
  have hlists := mergeReceived_touches_iff resourceId vectorClocks shareRecords resourceKeys
    { session with
      repo := withData env.now data resourceId session.repo
      connection := { session.connection with
        events := session.connection.events ++ [.updatesEvent resourceId updates clientId] } }
  simp only [keysAdmitted_withData, clocksAdmitted_withData,
    shareRecordsAdmitted_withData] at hlists
  simp only [hmergeable, hidentified, true_imp_iff]
  exact ⟨fun htouches => hlists.mp (hdata.symm.trans htouches),
    fun hstays => hdata.trans (hlists.mpr hstays)⟩

def StaysWithin (env : NetworkEnv) (session : Session) : ResourceUpdateMsg → Prop
  | .stateVectorRequest .. | .updatesResponse .. => True
  | .finalUpdateMerge resourceId updates vectorClocks shareRecords resourceKeys =>
      ∀ user, env.currentUser = some user →
        FinalMergeStays env user resourceId updates vectorClocks shareRecords resourceKeys
          session
  | .vectorClockResponse resourceId updateClock addClock shareRecords resourceKeys =>
      env.currentUser.isSome → ResponseStays resourceId session.repo updateClock addClock
        shareRecords resourceKeys

section Requests

variable {resourceId : String}

variable (env : ServiceEnv) (userId : String)

theorem getResource_touches :
    Program.Guarantees (OnlyTouches resourceId) (getResource env resourceId userId) := by
  refine .bind (.read (OnlyTouches.refl _) _) fun row => ?_
  exact .bind .done fun decrypted => .pure _

theorem generateUpdatesForPeer_touches (peerStateVectors : JsonText) :
    Program.Guarantees (OnlyTouches resourceId)
      (generateUpdatesForPeer env resourceId userId peerStateVectors) := by
  refine .bind (getResource_touches env userId) fun resource => ?_
  exact .bind .done fun updates => .pure _

theorem applyUpdatesAndGetPeerUpdates_touches (updates : JsonText) :
    Program.Guarantees (OnlyTouches resourceId)
      (applyUpdatesAndGetPeerUpdates env resourceId userId updates) := by
  refine .bind (getResource_touches env userId) fun resource => ?_
  refine .bind .done fun merged => .bind .done fun encrypted => .bind ?_ fun _ => .pure _
  refine .write (OnlyTouches.refl _) fun ctx ctx' hupdate => ?_
  cases mapError_eq_ok.mp hupdate
  exact onlyTouches_iff.mpr ⟨rowsApart_withData _ _ _, rfl, rfl, rfl⟩

theorem validateAuthorityForUpdate_touches (token peerUserId : String) :
    Program.Guarantees (OnlyTouches resourceId)
      (validateAuthorityForUpdate env resourceId token peerUserId) := by
  refine .bind (.read (OnlyTouches.refl _) _) fun peerUser => ?_
  exact .bind (.read (OnlyTouches.refl _) _) fun owner => .read (OnlyTouches.refl _) _

abbrev StoreTouches (resourceId : String) (session session' : Session) : Prop :=
  OnlyTouches resourceId session.repo session'.repo

theorem call_touches {α : Type} {service : Service α}
    (hservice : Program.Guarantees (OnlyTouches resourceId) service) :
    Program.Guarantees (StoreTouches resourceId) (callService service) :=
  .callService (fun _ _ htouches => htouches) hservice

theorem query_touches {α : Type}
    (read : RepositoryContext → Except RepositoryError α) :
    Program.Guarantees (OnlyTouches resourceId) (query read) :=
  .read (OnlyTouches.refl _) _

theorem change_touches (change : PeerConnection → PeerConnection) :
    Program.Guarantees (StoreTouches resourceId) (changeConnection change) :=
  .changeConnection fun session => .refl _ session.repo

theorem requireUpdateAuthority_touches (env : NetworkEnv) (token : String) :
    Program.Guarantees (StoreTouches resourceId)
      (requireUpdateAuthority env resourceId token) := by
  refine .bind (.read (fun session => .refl _ session.repo) _) fun peerUser => ?_
  refine .bind (call_touches (validateAuthorityForUpdate_touches _ _ _)) fun valid => ?_
  exact .ite (.fail _) (.pure _)

theorem processStateVectorRequest_touches (env : NetworkEnv) (user : User)
    (stateVectors : JsonText) (token : String) :
    Program.Guarantees (StoreTouches resourceId)
      (processStateVectorRequest env user resourceId stateVectors token) := by
  refine .bind (requireUpdateAuthority_touches env token) fun _ => ?_
  refine .bind (call_touches (generateUpdatesForPeer_touches _ _ _)) fun updates => ?_
  refine .bind (call_touches (.bind (query_touches _) fun _ => .pure _)) fun grant => ?_
  exact change_touches _

theorem processUpdatesResponse_touches (env : NetworkEnv) (user : User)
    (updates : JsonText) (token : String) :
    Program.Guarantees (StoreTouches resourceId)
      (processUpdatesResponse env user resourceId updates token) := by
  refine .bind (requireUpdateAuthority_touches env token) fun _ => ?_
  refine .bind (call_touches (applyUpdatesAndGetPeerUpdates_touches _ _ _)) fun answers => ?_
  refine .bind (call_touches (query_touches _)) fun shareRecords => ?_
  refine .bind (call_touches (query_touches _)) fun vectorClocks => ?_
  refine .bind (call_touches (query_touches _)) fun resourceKeys => ?_
  refine .bind (change_touches _) fun _ => ?_
  refine .bind (.read (fun session => .refl _ session.repo) _) fun peerDevice => ?_
  exact .bind (.getClientId _ _) fun clientId => change_touches _

end Requests

/-- A merge message changes nothing but rows of the resource it names exactly when
the rows it carries are written to that resource or to nothing. -/
theorem merge_touches_iff (env : NetworkEnv) (payload : ResourceUpdateMsg)
    (session : Session) :
    OnlyTouches payload.resourceId session.repo
        (receive env (.mergeUpdate payload) session).repo ↔
      StaysWithin env session payload := by
  rw [receive_repo, processMessage, processResourceUpdateMessage, getLocalUser]
  cases huser : env.currentUser with
  | none =>
      have hstays : StaysWithin env session payload := by
        cases payload <;> simp [StaysWithin, huser]
      exact iff_of_true (.refl _ _) hstays
  | some user =>
      rw [Program.pure_bind]
      cases payload with
      | stateVectorRequest resourceId stateVectors token =>
          refine iff_of_true ?_ trivial
          exact (processStateVectorRequest_touches env user stateVectors token).run
            (fun session => .refl _ session.repo) (fun _ _ _ => OnlyTouches.trans) session
      | updatesResponse resourceId updates token =>
          refine iff_of_true ?_ trivial
          exact (processUpdatesResponse_touches env user updates token).run
            (fun session => .refl _ session.repo) (fun _ _ _ => OnlyTouches.trans) session
      | finalUpdateMerge resourceId updates vectorClocks shareRecords resourceKeys =>
          refine (processFinalUpdateMerge_touches_iff env user resourceId updates vectorClocks
            shareRecords resourceKeys session).trans ?_
          simp [StaysWithin, huser]
      | vectorClockResponse resourceId updateClock addClock shareRecords resourceKeys =>
          refine (processVectorClockResponse_touches_iff resourceId updateClock addClock
            shareRecords resourceKeys session).trans ?_
          simp [StaysWithin, huser]

def strayResponse : ResourceUpdateMsg :=
  .vectorClockResponse "b" [.new "clock-R" 0 "a" "dev-R" 0] [] [] []

theorem strayResponse_changes_other_clock :
    ¬OnlyTouches strayResponse.resourceId ownerSession.repo
      (receive ownerEnv (.mergeUpdate strayResponse) ownerSession).repo :=
  fun htouches => absurd htouches.vectorClocks (by decide +kernel)

end Osvauld.Network
