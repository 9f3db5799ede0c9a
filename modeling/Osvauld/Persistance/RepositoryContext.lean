import Osvauld.Core.Sync
import Osvauld.Data.Outcome
import Osvauld.Data.Program

namespace Osvauld.Persistance

open Osvauld.Core Data

/-! The tables behind the repositories. A table keeps its rows in the order they
were inserted. -/

/-- `ResourceVectorClockModel`: the clock column is a signed 32-bit integer. -/
structure ResourceVectorClockModel where
  id : String
  resourceId : String
  deviceId : String
  clockValue : Int
  createdAt : Int
  updatedAt : Int
deriving DecidableEq, Repr

def asI32 (value : Nat) : Int := (value : Int).bmod (2 ^ 32)

def asU64 (value : Int) : Nat := (value % 2 ^ 64).toNat

namespace ResourceVectorClockModel

def ofDomain (clock : ResourceVectorClock) : ResourceVectorClockModel :=
  { id := clock.id, resourceId := clock.resourceId, deviceId := clock.deviceId
    clockValue := asI32 clock.clockValue
    createdAt := clock.createdAt, updatedAt := clock.updatedAt }

def toDomain (model : ResourceVectorClockModel) : ResourceVectorClock :=
  { id := model.id, resourceId := model.resourceId, deviceId := model.deviceId
    clockValue := asU64 model.clockValue
    createdAt := model.createdAt, updatedAt := model.updatedAt }

end ResourceVectorClockModel

/-- The tables, the one stored item the network layer reads, and a count of the
ids drawn so far from the supply of fresh ones. -/
structure RepositoryContext where
  users : List User := []
  devices : List Device := []
  folders : List Folder := []
  resources : List Resource := []
  resourceKeys : List ResourceKey := []
  shareRecords : List ShareRecord := []
  folderShareRecords : List FolderShareRecord := []
  vectorClocks : List ResourceVectorClockModel := []
  ucanKey : Option PgpText := none
  drawnIds : Nat := 0

inductive Violation where
  | primaryKey
  | unique
  | foreignKey
deriving DecidableEq, Repr

inductive RepositoryError where
  | databaseError (message : String) (cause : Violation)
  | notFound
deriving DecidableEq, Repr

/-- The text of an error; the database's own words for the cause are not part
of the model. -/
def RepositoryError.text : RepositoryError → String
  | .databaseError message _ => "Database error: " ++ message
  | .notFound => "Not found"

inductive OnConflict where
  | abort
  | doNothing
deriving DecidableEq, Repr

structure Table (Row : Type) where
  rows : RepositoryContext → List Row
  setRows : List Row → RepositoryContext → RepositoryContext
  id : Row → String
  /-- Two rows that a `UNIQUE` constraint keeps apart. -/
  clash : Row → Row → Bool
  referenced : RepositoryContext → Row → Bool

namespace Table

variable {Row : Type} (table : Table Row)

def insert (onConflict : OnConflict) (row : Row) (ctx : RepositoryContext) :
    Except Violation RepositoryContext :=
  if (table.rows ctx).any fun other => table.id other = table.id row then
    match onConflict with
    | .abort => .error .primaryKey
    | .doNothing => .ok ctx
  else if (table.rows ctx).any fun other => table.clash other row then
    .error .unique
  else if table.referenced ctx row then
    .ok (table.setRows (table.rows ctx ++ [row]) ctx)
  else .error .foreignKey

def insertAll (onConflict : OnConflict) (rows : List Row)
    (ctx : RepositoryContext) : Except Violation RepositoryContext :=
  rows.foldlM (fun ctx row => table.insert onConflict row ctx) ctx

theorem insert_eq_ok {table : Table Row} {onConflict row ctx ctx'}
    (hinsert : table.insert onConflict row ctx = .ok ctx') :
    ctx' = ctx ∨ (∀ other ∈ table.rows ctx, table.id other ≠ table.id row) ∧
      ctx' = table.setRows (table.rows ctx ++ [row]) ctx := by
  unfold insert at hinsert
  split at hinsert
  · cases onConflict with
    | abort => cases hinsert
    | doNothing => exact .inl (Except.ok.inj hinsert).symm
  · next hfree =>
      split at hinsert
      · cases hinsert
      · split at hinsert
        · exact .inr ⟨by simpa using hfree, (Except.ok.inj hinsert).symm⟩
        · cases hinsert

theorem insert_abort_eq_ok {table : Table Row} {row ctx ctx'}
    (hinsert : table.insert .abort row ctx = .ok ctx') :
    (∀ other ∈ table.rows ctx, table.id other ≠ table.id row) ∧
      ctx' = table.setRows (table.rows ctx ++ [row]) ctx := by
  unfold insert at hinsert
  split at hinsert
  · cases hinsert
  · next hfree =>
      split at hinsert
      · cases hinsert
      · split at hinsert
        · exact ⟨by simpa using hfree, (Except.ok.inj hinsert).symm⟩
        · cases hinsert

theorem insertAll_induction {table : Table Row} {onConflict}
    (invariant : RepositoryContext → Prop)
    {rows : List Row} {ctx ctx' : RepositoryContext}
    (hstep : ∀ row ∈ rows, ∀ state,
      (∀ other ∈ table.rows state, table.id other ≠ table.id row) →
        invariant state →
          invariant (table.setRows (table.rows state ++ [row]) state))
    (hctx : invariant ctx)
    (hinsert : table.insertAll onConflict rows ctx = .ok ctx') :
    invariant ctx' := by
  refine foldlM_invariant invariant (fun row hrow state next hstate hnext => ?_)
    hctx hinsert
  rcases insert_eq_ok hnext with rfl | ⟨hfree, rfl⟩
  · exact hstate
  · exact hstep row hrow state hfree hstate

theorem insertAll_singleton (onConflict : OnConflict) (row : Row)
    (ctx : RepositoryContext) :
    table.insertAll onConflict [row] ctx = table.insert onConflict row ctx := by
  simp [insertAll]

end Table

def userExists (ctx : RepositoryContext) (id : String) : Bool :=
  ctx.users.any fun user => user.id = id

def deviceExists (ctx : RepositoryContext) (id : String) : Bool :=
  ctx.devices.any fun device => device.id = id

def folderExists (ctx : RepositoryContext) (id : String) : Bool :=
  ctx.folders.any fun folder => folder.id = id

def resourceExists (ctx : RepositoryContext) (id : String) : Bool :=
  ctx.resources.any fun resource => resource.id = id

namespace Table

def users : Table User :=
  { rows := fun ctx => ctx.users
    setRows := fun rows ctx => { ctx with users := rows }
    id := fun user => user.id
    clash := fun user other => user.username = other.username
    referenced := fun _ _ => true }

def devices : Table Device :=
  { rows := fun ctx => ctx.devices
    setRows := fun rows ctx => { ctx with devices := rows }
    id := fun device => device.id
    clash := fun device other => device.deviceKey = other.deviceKey
    referenced := fun ctx device => userExists ctx device.userId }

def folders : Table Folder :=
  { rows := fun ctx => ctx.folders
    setRows := fun rows ctx => { ctx with folders := rows }
    id := fun folder => folder.id
    clash := fun _ _ => false
    referenced := fun _ _ => true }

def resources : Table Resource :=
  { rows := fun ctx => ctx.resources
    setRows := fun rows ctx => { ctx with resources := rows }
    id := fun resource => resource.id
    clash := fun _ _ => false
    referenced := fun ctx resource =>
      folderExists ctx resource.folderId && userExists ctx resource.createdBy }

def resourceKeys : Table ResourceKey :=
  { rows := fun ctx => ctx.resourceKeys
    setRows := fun rows ctx => { ctx with resourceKeys := rows }
    id := fun key => key.id
    clash := fun key other =>
      key.resourceId = other.resourceId && key.userId = other.userId
    referenced := fun ctx key =>
      resourceExists ctx key.resourceId && userExists ctx key.userId }

def shareRecords : Table ShareRecord :=
  { rows := fun ctx => ctx.shareRecords
    setRows := fun rows ctx => { ctx with shareRecords := rows }
    id := fun record => record.id
    clash := fun _ _ => false
    referenced := fun ctx record =>
      resourceExists ctx record.resourceId &&
        userExists ctx record.sharedByUserId &&
        userExists ctx record.recipientUserId }

def folderShareRecords : Table FolderShareRecord :=
  { rows := fun ctx => ctx.folderShareRecords
    setRows := fun rows ctx => { ctx with folderShareRecords := rows }
    id := fun record => record.id
    clash := fun _ _ => false
    referenced := fun ctx record =>
      folderExists ctx record.folderId &&
        userExists ctx record.sharedByUserId &&
        userExists ctx record.recipientUserId }

def vectorClocks : Table ResourceVectorClockModel :=
  { rows := fun ctx => ctx.vectorClocks
    setRows := fun rows ctx => { ctx with vectorClocks := rows }
    id := fun clock => clock.id
    clash := fun clock other =>
      clock.resourceId = other.resourceId && clock.deviceId = other.deviceId
    referenced := fun ctx clock =>
      resourceExists ctx clock.resourceId && deviceExists ctx clock.deviceId }

end Table

def reportAs (message : String) (result : Except Violation RepositoryContext) :
    Except RepositoryError RepositoryContext :=
  result.mapError (.databaseError message)

theorem reportAs_eq_ok {message : String} {result ctx} :
    reportAs message result = .ok ctx ↔ result = .ok ctx :=
  mapError_eq_ok

def firstOrNotFound {Row : Type} (row : Option Row) :
    Except RepositoryError Row :=
  match row with
  | some row => .ok row
  | none => .error .notFound

theorem find_eq_ok {Row : Type} {rows : List Row} {isWanted : Row → Bool} {row : Row}
    (hfind : firstOrNotFound (rows.find? isWanted) = .ok row) :
    row ∈ rows ∧ isWanted row = true := by
  cases hfound : rows.find? isWanted with
  | none => simp [hfound, firstOrNotFound] at hfind
  | some found =>
      rw [hfound] at hfind
      cases hfind
      exact ⟨List.mem_of_find?_eq_some hfound, List.find?_some hfound⟩

end Osvauld.Persistance
