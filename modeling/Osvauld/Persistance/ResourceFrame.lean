import Osvauld.Persistance.NewRows

namespace Osvauld.Persistance

open Osvauld.Core Data.KeyedInserts

/-! Changes that leave everything but the rows of one resource. -/

def rowsApart {Row : Type} (resourceOf : Row → String) (resourceId : String)
    (rows : List Row) : List Row :=
  rows.filter fun row => resourceOf row ≠ resourceId

structure OnlyTouches (resourceId : String) (ctx ctx' : RepositoryContext) : Prop where
  users : ctx'.users = ctx.users
  devices : ctx'.devices = ctx.devices
  folders : ctx'.folders = ctx.folders
  folderShareRecords : ctx'.folderShareRecords = ctx.folderShareRecords
  ucanKey : ctx'.ucanKey = ctx.ucanKey
  resources : rowsApart Resource.id resourceId ctx'.resources =
    rowsApart Resource.id resourceId ctx.resources
  resourceKeys : rowsApart ResourceKey.resourceId resourceId ctx'.resourceKeys =
    rowsApart ResourceKey.resourceId resourceId ctx.resourceKeys
  shareRecords : rowsApart ShareRecord.resourceId resourceId ctx'.shareRecords =
    rowsApart ShareRecord.resourceId resourceId ctx.shareRecords
  vectorClocks :
    rowsApart ResourceVectorClockModel.resourceId resourceId ctx'.vectorClocks =
      rowsApart ResourceVectorClockModel.resourceId resourceId ctx.vectorClocks

theorem OnlyTouches.refl (resourceId : String) (ctx : RepositoryContext) :
    OnlyTouches resourceId ctx ctx :=
  ⟨rfl, rfl, rfl, rfl, rfl, rfl, rfl, rfl, rfl⟩

variable {resourceId : String}

theorem OnlyTouches.trans {first second third : RepositoryContext}
    (hfirst : OnlyTouches resourceId first second) (hsecond : OnlyTouches resourceId second third) :
    OnlyTouches resourceId first third where
  users := hsecond.users.trans hfirst.users
  devices := hsecond.devices.trans hfirst.devices
  folders := hsecond.folders.trans hfirst.folders
  folderShareRecords := hsecond.folderShareRecords.trans hfirst.folderShareRecords
  ucanKey := hsecond.ucanKey.trans hfirst.ucanKey
  resources := hsecond.resources.trans hfirst.resources
  resourceKeys := hsecond.resourceKeys.trans hfirst.resourceKeys
  shareRecords := hsecond.shareRecords.trans hfirst.shareRecords
  vectorClocks := hsecond.vectorClocks.trans hfirst.vectorClocks

theorem OnlyTouches.symm {ctx ctx' : RepositoryContext} (htouches : OnlyTouches resourceId ctx ctx') :
    OnlyTouches resourceId ctx' ctx where
  users := htouches.users.symm
  devices := htouches.devices.symm
  folders := htouches.folders.symm
  folderShareRecords := htouches.folderShareRecords.symm
  ucanKey := htouches.ucanKey.symm
  resources := htouches.resources.symm
  resourceKeys := htouches.resourceKeys.symm
  shareRecords := htouches.shareRecords.symm
  vectorClocks := htouches.vectorClocks.symm

theorem onlyTouches_iff {ctx : RepositoryContext} {resources : List Resource}
    {resourceKeys : List ResourceKey} {shareRecords : List ShareRecord}
    {vectorClocks : List ResourceVectorClockModel} :
    OnlyTouches resourceId ctx
        { ctx with resources, resourceKeys, shareRecords, vectorClocks } ↔
      rowsApart Resource.id resourceId resources =
          rowsApart Resource.id resourceId ctx.resources ∧
        rowsApart ResourceKey.resourceId resourceId resourceKeys =
          rowsApart ResourceKey.resourceId resourceId ctx.resourceKeys ∧
        rowsApart ShareRecord.resourceId resourceId shareRecords =
          rowsApart ShareRecord.resourceId resourceId ctx.shareRecords ∧
        rowsApart ResourceVectorClockModel.resourceId resourceId vectorClocks =
          rowsApart ResourceVectorClockModel.resourceId resourceId ctx.vectorClocks := by
  constructor
  · intro htouches
    exact ⟨htouches.resources, htouches.resourceKeys, htouches.shareRecords,
      htouches.vectorClocks⟩
  · rintro ⟨hresources, hkeys, hshares, hclocks⟩
    exact ⟨rfl, rfl, rfl, rfl, rfl, hresources, hkeys, hshares, hclocks⟩

section Rows

variable {Row : Type} {resourceOf : Row → String} {resourceId : String}
variable {rows new : List Row}

theorem rowsApart_eq_iff {change : Row → Row}
    (hchange : ∀ row, resourceOf (change row) = resourceOf row) :
    rowsApart resourceOf resourceId (rows.map change ++ new) =
        rowsApart resourceOf resourceId rows ↔
      (∀ row ∈ rows, resourceOf row ≠ resourceId → change row = row) ∧
        ∀ row ∈ new, resourceOf row = resourceId := by
  have hfilter : rowsApart resourceOf resourceId (rows.map change) =
      (rowsApart resourceOf resourceId rows).map change := by
    simp only [rowsApart, List.filter_map]
    refine congrArg _ (List.filter_congr fun row _ => ?_)
    simp [hchange]
  have happend : rowsApart resourceOf resourceId (rows.map change ++ new) =
      (rowsApart resourceOf resourceId rows).map change ++
        rowsApart resourceOf resourceId new := by
    rw [← hfilter]
    exact List.filter_append ..
  have hmap : (rowsApart resourceOf resourceId rows).map change =
      rowsApart resourceOf resourceId rows ↔
        ∀ row ∈ rows, resourceOf row ≠ resourceId → change row = row := by
    have hself := @List.map_inj_left _ _ (rowsApart resourceOf resourceId rows) change id
    rw [List.map_id] at hself
    rw [hself]
    simp [rowsApart]
  have hnew : rowsApart resourceOf resourceId new = [] ↔
      ∀ row ∈ new, resourceOf row = resourceId := by
    simp [rowsApart, List.filter_eq_nil_iff]
  rw [happend, ← hmap, ← hnew]
  constructor
  · intro heq
    obtain ⟨hsame, hnone⟩ := List.append_inj (heq.trans (List.append_nil _).symm) (by simp)
    exact ⟨hsame, hnone⟩
  · rintro ⟨hsame, hnone⟩
    rw [hsame, hnone, List.append_nil]

theorem rowsApart_append_eq_iff :
    rowsApart resourceOf resourceId (rows ++ new) = rowsApart resourceOf resourceId rows ↔
      ∀ row ∈ new, resourceOf row = resourceId := by
  have hiff := @rowsApart_eq_iff _ resourceOf resourceId rows new id fun _ => rfl
  simpa using hiff

end Rows

def lastSet? (updates : List ResourceVectorClock) (clock : ResourceVectorClockModel) :
    Option (Int × Int) :=
  (updates.reverse.find? fun change =>
    VectorClockRepo.isFor change.resourceId change.deviceId clock).map fun change =>
      (asI32 change.clockValue, change.updatedAt)

def afterSet (clock : ResourceVectorClockModel) (set? : Option (Int × Int)) :
    ResourceVectorClockModel :=
  { clock with
    clockValue := set?.elim clock.clockValue Prod.fst
    updatedAt := set?.elim clock.updatedAt Prod.snd }

section AfterSet

variable (clock : ResourceVectorClockModel) (set? : Option (Int × Int))

@[simp] theorem afterSet_id : (afterSet clock set?).id = clock.id := rfl

@[simp] theorem afterSet_resourceId :
    (afterSet clock set?).resourceId = clock.resourceId := rfl

@[simp] theorem afterSet_deviceId : (afterSet clock set?).deviceId = clock.deviceId := rfl

theorem afterSet_some (value updatedAt : Int) :
    afterSet clock (some (value, updatedAt)) = { clock with clockValue := value, updatedAt } := by
  simp [afterSet]

theorem afterSet_afterSet (set : Int × Int) :
    afterSet (afterSet clock set?) (some set) = afterSet clock (some set) := rfl

theorem afterSet_eq_self_iff :
    afterSet clock set? = clock ↔
      ∀ set, set? = some set → set = (clock.clockValue, clock.updatedAt) := by
  cases clock
  cases set? with
  | none => simp [afterSet]
  | some set => simp [afterSet, Prod.ext_iff]

end AfterSet

theorem setClock_eq (change : ResourceVectorClock) (rows : List ResourceVectorClockModel) :
    VectorClockRepo.setClock change rows = rows.map fun clock =>
      if VectorClockRepo.isFor change.resourceId change.deviceId clock then
        afterSet clock (some (asI32 change.clockValue, change.updatedAt))
      else clock := by
  refine List.map_congr_left fun clock _ => ?_
  rw [afterSet_some]

theorem setClock_foldl (updates : List ResourceVectorClock)
    (rows : List ResourceVectorClockModel) :
    updates.foldl (fun rows change => VectorClockRepo.setClock change rows) rows =
      rows.map fun clock => afterSet clock (lastSet? updates clock) := by
  induction updates using List.reverseRecOn with
  | nil => simp [lastSet?, afterSet]
  | append_singleton earlier change ih =>
      rw [List.foldl_append, List.foldl_cons, List.foldl_nil, ih, setClock_eq, List.map_map]
      refine List.map_congr_left fun clock _ => ?_
      have hsame : VectorClockRepo.isFor change.resourceId change.deviceId
          (afterSet clock (lastSet? earlier clock)) =
            VectorClockRepo.isFor change.resourceId change.deviceId clock := by
        unfold VectorClockRepo.isFor
        rw [afterSet_resourceId, afterSet_deviceId]
      have hlast : lastSet? (earlier ++ [change]) clock =
          if VectorClockRepo.isFor change.resourceId change.deviceId clock then
            some (asI32 change.clockValue, change.updatedAt)
          else lastSet? earlier clock := by
        rw [lastSet?, List.reverse_append, List.reverse_singleton, List.singleton_append,
          List.find?_cons, lastSet?]
        cases VectorClockRepo.isFor change.resourceId change.deviceId clock with
        | false => rfl
        | true => rw [Option.map_some, if_pos rfl]
      simp only [Function.comp_apply, hsame, hlast]
      by_cases hchange : VectorClockRepo.isFor change.resourceId change.deviceId clock = true
      · rw [if_pos hchange, if_pos hchange, afterSet_afterSet]
      · rw [if_neg hchange, if_neg hchange]

/-- The clocks that are added are the resource's, and the rows of other resources
end with what they hold. -/
structure OwnClocks (resourceId : String) (rows : List ResourceVectorClockModel)
    (updates additions : List ResourceVectorClock) : Prop where
  added : ∀ clock ∈ additions, clock.resourceId = resourceId
  others : ∀ clock ∈ rows, clock.resourceId ≠ resourceId →
    ∀ set, lastSet? updates clock = some set → set = (clock.clockValue, clock.updatedAt)

def ClocksAdmitted (ctx : RepositoryContext) (additions : List ResourceVectorClock) : Prop :=
  Table.vectorClocks.AdmitsAll clockPair ctx
    (additions.map ResourceVectorClockModel.ofDomain)

def clocksAfter (ctx : RepositoryContext) (updates additions : List ResourceVectorClock) :
    List ResourceVectorClockModel :=
  (ctx.vectorClocks.map fun clock => afterSet clock (lastSet? updates clock)) ++
    additions.map ResourceVectorClockModel.ofDomain

variable {ctx ctx' : RepositoryContext}

theorem updateVectorClocks_eq_ok_iff {updates additions : List ResourceVectorClock} :
    VectorClockRepo.updateVectorClocks updates additions ctx = .ok ctx' ↔
      ClocksAdmitted ctx additions ∧
        ctx' = { ctx with vectorClocks := clocksAfter ctx updates additions } := by
  -- Setting clocks changes neither the ids nor what a row is for.
  have hids : (ctx.vectorClocks.map fun clock =>
      afterSet clock (lastSet? updates clock)).map ResourceVectorClockModel.id =
        ctx.vectorClocks.map ResourceVectorClockModel.id := by
    simp [List.map_map, Function.comp_def]
  have hpairs : (ctx.vectorClocks.map fun clock =>
      afterSet clock (lastSet? updates clock)).map clockPair =
        ctx.vectorClocks.map clockPair := by
    simp [List.map_map, Function.comp_def, clockPair]
  have hadmitted : ∀ (rows : List ResourceVectorClockModel),
      rows.map ResourceVectorClockModel.id =
          ctx.vectorClocks.map ResourceVectorClockModel.id →
        rows.map clockPair = ctx.vectorClocks.map clockPair →
        (Table.vectorClocks.AdmitsAll clockPair { ctx with vectorClocks := rows }
            (additions.map ResourceVectorClockModel.ofDomain) ↔
          ClocksAdmitted ctx additions) := by
    intro rows hrows hrowPairs
    have hfree (batch : List ResourceVectorClockModel) :
        Addable ResourceVectorClockModel.id (fun _ => True) rows batch ↔
          Addable ResourceVectorClockModel.id (fun _ => True) ctx.vectorClocks batch :=
      ⟨fun h => ⟨h.distinct, by rw [← hrows]; exact h.free, h.admitted⟩,
        fun h => ⟨h.distinct, by rw [hrows]; exact h.free, h.admitted⟩⟩
    have hfreePairs (batch : List ResourceVectorClockModel)
        (admits : ResourceVectorClockModel → Prop) :
        Addable clockPair admits rows batch ↔
          Addable clockPair admits ctx.vectorClocks batch :=
      ⟨fun h => ⟨h.distinct, by rw [← hrowPairs]; exact h.free, h.admitted⟩,
        fun h => ⟨h.distinct, by rw [hrowPairs]; exact h.free, h.admitted⟩⟩
    exact and_congr (hfree _) (hfreePairs _ _)
  rw [VectorClockRepo.updateVectorClocks, reportAs_eq_ok,
    vectorClocks_keyed.insertAll_abort_eq_ok_iff, setClock_foldl, hadmitted _ hids hpairs]
  rfl

theorem rowsApart_clocksAfter_eq_iff {resourceId : String}
    {updates additions : List ResourceVectorClock} :
    rowsApart ResourceVectorClockModel.resourceId resourceId
          (clocksAfter ctx updates additions) =
        rowsApart ResourceVectorClockModel.resourceId resourceId ctx.vectorClocks ↔
      OwnClocks resourceId ctx.vectorClocks updates additions := by
  rw [clocksAfter, rowsApart_eq_iff fun clock => afterSet_resourceId _ _, List.forall_mem_map]
  simp only [afterSet_eq_self_iff]
  exact ⟨fun hown => ⟨hown.2, hown.1⟩, fun hown => ⟨hown.others, hown.added⟩⟩

def KeysAdmitted (ctx : RepositoryContext) (keys : List ResourceKey) : Prop :=
  Table.resourceKeys.Admits keyPair ctx keys

def ShareRecordsAdmitted (ctx : RepositoryContext) (records : List ShareRecord) : Prop :=
  Table.shareRecords.Admits ShareRecord.id ctx records

def OwnKeys (resourceId : String) (ctx : RepositoryContext) (keys : List ResourceKey) : Prop :=
  ∀ key ∈ newRows ResourceKey.id ctx.resourceKeys keys, key.resourceId = resourceId

def OwnShareRecords (resourceId : String) (ctx : RepositoryContext)
    (records : List ShareRecord) : Prop :=
  ∀ record ∈ newRows ShareRecord.id ctx.shareRecords records,
    record.resourceId = resourceId

theorem addResourceKeys_eq_ok_iff {keys : List ResourceKey} :
    ResourceKeyRepo.addResourceKeys keys ctx = .ok ctx' ↔
      KeysAdmitted ctx keys ∧
        ctx' = { ctx with
          resourceKeys := ctx.resourceKeys ++
            newRows ResourceKey.id ctx.resourceKeys keys } := by
  rw [ResourceKeyRepo.addResourceKeys, reportAs_eq_ok,
    resourceKeys_keyed.insertAll_eq_ok_iff_newRows]
  rfl

theorem saveMany_eq_ok_iff {records : List ShareRecord} :
    ShareRepo.saveMany records ctx = .ok ctx' ↔
      ShareRecordsAdmitted ctx records ∧
        ctx' = { ctx with
          shareRecords := ctx.shareRecords ++
            newRows ShareRecord.id ctx.shareRecords records } := by
  rw [ShareRepo.saveMany, reportAs_eq_ok, shareRecords_keyed.insertAll_eq_ok_iff_newRows]
  rfl

end Osvauld.Persistance
