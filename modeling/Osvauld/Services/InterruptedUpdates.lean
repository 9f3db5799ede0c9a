import Osvauld.Persistance.StoredClocks
import Osvauld.Services.StoredDocuments

namespace Osvauld.Services

open Osvauld.Core CryptoUtils Data Persistance

/-! An update of a stored resource that does not get to its end. -/

inductive Interruption where
  | stop (steps : Nat)
  | fail (steps : Nat) (error : ServiceError)

namespace Interruption

def steps : Interruption → Nat
  | stop steps => steps
  | fail steps _ => steps

def after {α : Type} (interruption : Interruption) (service : Service α)
    (ctx : RepositoryContext) : Option (Except ServiceError α) × RepositoryContext :=
  match interruption with
  | stop steps => (none, service.stopAfter steps ctx)
  | fail steps error =>
      (some (service.failAfter steps error ctx).1, (service.failAfter steps error ctx).2)

theorem after_snd {α : Type} (interruption : Interruption) (service : Service α)
    (ctx : RepositoryContext) :
    (interruption.after service ctx).2 = service.stopAfter interruption.steps ctx := by
  cases interruption with
  | stop steps => rfl
  | fail steps error => exact Program.failAfter_snd steps error service ctx

end Interruption

def editCount (ctx : RepositoryContext) (resourceId deviceId : String) : Int :=
  (storedClock? ctx resourceId deviceId).getD 0

section Update

variable (env : ServiceEnv) (resourceId : String) (data : JsonText)
variable (userId currentDeviceId : String)

def replacement? (ctx : RepositoryContext) : Option AesText :=
  match ResourceRepo.findById resourceId userId ctx with
  | .ok row => (CryptoUtils.updateResource env.cert data row.encryptedKey).toOption
  | .error _ => none

def RowReady (ctx : RepositoryContext) : Prop :=
  (ctx.vectorClocks.find? (VectorClockRepo.isFor resourceId currentDeviceId)).isSome = true ∨
    deviceExists ctx currentDeviceId = true ∧
      ∀ clock ∈ ctx.vectorClocks, clock.id ≠ env.libraries.uuid ctx.drawnIds

def CountFits (ctx : RepositoryContext) : Prop :=
  (editCount ctx resourceId currentDeviceId + 1).bmod (2 ^ 32) =
    editCount ctx resourceId currentDeviceId + 1

inductive AllOrNothing (before after : RepositoryContext) : Prop
  | all {cipher : AesText} :
      replacement? env resourceId data userId before = some cipher →
      storedData? after resourceId = some cipher →
      editCount after resourceId currentDeviceId =
        editCount before resourceId currentDeviceId + 1 →
      AllOrNothing before after
  | nothing : storedData? after resourceId = storedData? before resourceId →
      editCount after resourceId currentDeviceId =
        editCount before resourceId currentDeviceId →
      AllOrNothing before after

/-- Whatever comes in between, all of the update is done or nothing of it, and nothing
when the caller is told of a failure. -/
structure Atomic (interruption : Interruption) (ctx : RepositoryContext) : Prop where
  whole : AllOrNothing env resourceId data userId currentDeviceId ctx
    (interruption.after (updateResource env resourceId data userId currentDeviceId) ctx).2
  failed : ∀ error,
    (interruption.after (updateResource env resourceId data userId currentDeviceId) ctx).1 =
        some (.error error) →
      storedData? (interruption.after
          (updateResource env resourceId data userId currentDeviceId) ctx).2 resourceId =
        storedData? ctx resourceId ∧
      editCount (interruption.after
          (updateResource env resourceId data userId currentDeviceId) ctx).2 resourceId
            currentDeviceId =
        editCount ctx resourceId currentDeviceId

/-- When an interruption does no harm: it comes before anything is written, or there is
nothing to write, or what is written is stored already and is not counted, or it comes
when the edit has been counted and is reported as done. -/
inductive Harmless (interruption : Interruption) (ctx : RepositoryContext) : Prop
  | early : interruption.steps < 2 → Harmless interruption ctx
  | refused : replacement? env resourceId data userId ctx = none → Harmless interruption ctx
  | stored : replacement? env resourceId data userId ctx = storedData? ctx resourceId →
      interruption.steps < 4 ∨ ¬ RowReady env resourceId currentDeviceId ctx →
      Harmless interruption ctx
  | counted : 4 ≤ interruption.steps → RowReady env resourceId currentDeviceId ctx →
      CountFits resourceId currentDeviceId ctx → (∀ error, interruption ≠ .fail 4 error) →
      Harmless interruption ctx

end Update

section Steps

variable {env : ServiceEnv} {resourceId : String} {data : JsonText}
variable {userId currentDeviceId : String} {ctx : RepositoryContext}

def countAndRead (env : ServiceEnv) (resourceId userId currentDeviceId : String) :
    Service DecryptedResource := do
  let clockId ← drawId env
  update (VectorClockRepo.incrementVectorClock clockId env.now resourceId currentDeviceId)
  getResourceByIdDirect env resourceId userId

def writtenStore (env : ServiceEnv) (resourceId : String) (cipher : AesText)
    (ctx : RepositoryContext) : RepositoryContext :=
  { ctx with
    resources := ctx.resources.map fun resource =>
      if resource.id = resourceId then ResourceRepo.setData cipher env.now resource
      else resource }

theorem replacement?_eq_some {cipher : AesText}
    (hcipher : replacement? env resourceId data userId ctx = some cipher) :
    ∃ row, ResourceRepo.findById resourceId userId ctx = .ok row ∧
      CryptoUtils.updateResource env.cert data row.encryptedKey = .ok cipher := by
  unfold replacement? at hcipher
  cases hfind : ResourceRepo.findById resourceId userId ctx with
  | error error =>
      rw [hfind] at hcipher
      cases hcipher
  | ok row =>
      rw [hfind] at hcipher
      cases hencrypt : CryptoUtils.updateResource env.cert data row.encryptedKey with
      | error error =>
          simp [hencrypt, Except.toOption] at hcipher
      | ok sealed =>
          simp only [hencrypt, Except.toOption, Option.some.injEq] at hcipher
          exact ⟨row, rfl, by rw [hcipher] at hencrypt; exact hencrypt⟩

theorem updateResource_refused
    (hnone : replacement? env resourceId data userId ctx = none) (steps : Nat) :
    (updateResource env resourceId data userId currentDeviceId).stopAfter steps ctx = ctx := by
  cases steps with
  | zero => exact Program.stopAfter_zero _ _
  | succ steps =>
      unfold updateResource query
      rw [Program.stopAfter_read_bind]
      unfold replacement? at hnone
      cases hfind : ResourceRepo.findById resourceId userId ctx with
      | error error => rfl
      | ok row =>
          rw [hfind] at hnone
          cases hencrypt : CryptoUtils.updateResource env.cert data row.encryptedKey with
          | ok cipher => simp [hencrypt, Except.toOption] at hnone
          | error error =>
              dsimp only [Except.mapError]
              rw [liftCrypto, Program.stopAfter_ofExcept_bind, hencrypt]
              rfl

theorem updateResource_early {steps : Nat} (hearly : steps < 2) :
    (updateResource env resourceId data userId currentDeviceId).stopAfter steps ctx = ctx := by
  match steps, hearly with
  | 0, _ => exact Program.stopAfter_zero _ _
  | 1, _ =>
      unfold updateResource query
      rw [Program.stopAfter_read_bind]
      cases (ResourceRepo.findById resourceId userId ctx).mapError ServiceError.repository with
      | error error => rfl
      | ok row => exact Program.stopAfter_zero _ _

variable {cipher : AesText}

section Written

variable (hcipher : replacement? env resourceId data userId ctx = some cipher)

include hcipher

theorem updateResource_written (steps : Nat) :
    (updateResource env resourceId data userId currentDeviceId).stopAfter (steps + 2) ctx =
      (countAndRead env resourceId userId currentDeviceId).stopAfter steps
        (writtenStore env resourceId cipher ctx) := by
  obtain ⟨row, hfind, hencrypt⟩ := replacement?_eq_some hcipher
  unfold updateResource query
  rw [Program.stopAfter_read_bind, hfind]
  dsimp only [Except.mapError]
  rw [liftCrypto, Program.stopAfter_ofExcept_bind, hencrypt]
  rfl

theorem updateResource_written_fail (steps : Nat) (error : ServiceError) :
    (updateResource env resourceId data userId currentDeviceId).failAfter (steps + 2) error
        ctx =
      (countAndRead env resourceId userId currentDeviceId).failAfter steps error
        (writtenStore env resourceId cipher ctx) := by
  obtain ⟨row, hfind, hencrypt⟩ := replacement?_eq_some hcipher
  unfold updateResource query Program.read
  rw [Program.failAfter_atomically_bind]
  dsimp only
  rw [hfind]
  change Program.failAfter (steps + 1) error
    (liftCrypto (CryptoUtils.updateResource env.cert data row.encryptedKey) >>= _) ctx = _
  rw [hencrypt]
  rfl

theorem storedData?_writtenStore :
    storedData? (writtenStore env resourceId cipher ctx) resourceId = some cipher := by
  obtain ⟨row, hfind, -⟩ := replacement?_eq_some hcipher
  have hstored := @storedData?_updateResource _ _ _ ctx
    (writtenStore env resourceId cipher ctx) rfl resourceId
  have hrow : storedData? ctx resourceId = some row.resource.data := by
    rw [storedData?, findById_ok hfind, Option.map_some]
  rw [if_pos rfl, hrow, Option.map_some] at hstored
  exact hstored

end Written

theorem resourceExists_of_stored {data : AesText}
    (hdata : storedData? ctx resourceId = some data) : resourceExists ctx resourceId = true := by
  obtain ⟨resource, hresource, -⟩ := Option.map_eq_some_iff.mp hdata
  have hid := List.find?_some hresource
  exact List.any_eq_true.mpr ⟨resource, List.mem_of_find?_eq_some hresource, hid⟩

theorem increment_ok_iff {freshId : String} {now : Int}
    (hexists : resourceExists ctx resourceId = true) :
    (∃ ctx', VectorClockRepo.incrementVectorClock freshId now resourceId currentDeviceId
        ctx = .ok ctx') ↔
      (ctx.vectorClocks.find? (VectorClockRepo.isFor resourceId currentDeviceId)).isSome =
          true ∨
        deviceExists ctx currentDeviceId = true ∧
          ∀ clock ∈ ctx.vectorClocks, clock.id ≠ freshId := by
  unfold VectorClockRepo.incrementVectorClock
  cases hfound : ctx.vectorClocks.find? (VectorClockRepo.isFor resourceId currentDeviceId) with
  | some model => simp
  | none =>
      have hfree : (resourceId, currentDeviceId) ∉ ctx.vectorClocks.map clockPair := by
        intro hheld
        obtain ⟨clock, hclock, hpair⟩ := List.mem_map.mp hheld
        have hother := List.find?_eq_none.mp hfound clock hclock
        rw [ClocksRise.isFor_eq] at hother
        exact hother (decide_eq_true hpair)
      let row := ResourceVectorClockModel.ofDomain
        (ResourceVectorClock.initializeClock freshId now resourceId currentDeviceId)
      have hreferenced : Table.vectorClocks.referenced ctx row =
          deviceExists ctx currentDeviceId := by
        change (resourceExists ctx resourceId && deviceExists ctx currentDeviceId) = _
        rw [hexists, Bool.true_and]
      have hid : freshId ∉ ctx.vectorClocks.map ResourceVectorClockModel.id ↔
          ∀ clock ∈ ctx.vectorClocks, clock.id ≠ freshId := by
        simp
      simp only [reportAs_eq_ok, vectorClocks_keyed.insert_abort_eq_ok_iff,
        exists_and_left, exists_eq, and_true, Option.isSome_none, Bool.false_eq_true,
        false_or]
      rw [hreferenced, ← hid]
      constructor
      · rintro ⟨hfresh, -, hdevice⟩
        exact ⟨hdevice, hfresh⟩
      · rintro ⟨hdevice, hfresh⟩
        exact ⟨hfresh, hfree, hdevice⟩

section Counting

variable {written counted : RepositoryContext}

def drawn (ctx : RepositoryContext) : RepositoryContext :=
  { ctx with drawnIds := ctx.drawnIds + 1 }

theorem stopAfter_drawId_bind {α : Type} (steps : Nat) (rest : String → Service α) :
    (drawId env >>= rest).stopAfter (steps + 1) written =
      (rest (env.libraries.uuid written.drawnIds)).stopAfter steps (drawn written) := rfl

theorem failAfter_drawId_bind {α : Type} (steps : Nat) (error : ServiceError)
    (rest : String → Service α) :
    (drawId env >>= rest).failAfter (steps + 1) error written =
      (rest (env.libraries.uuid written.drawnIds)).failAfter steps error (drawn written) :=
  rfl

theorem countAndRead_early {steps : Nat} (hearly : steps < 2) :
    (countAndRead env resourceId userId currentDeviceId).stopAfter steps written = written ∨
      (countAndRead env resourceId userId currentDeviceId).stopAfter steps written =
        drawn written := by
  match steps, hearly with
  | 0, _ => exact .inl (Program.stopAfter_zero _ _)
  | 1, _ =>
      right
      rw [countAndRead, stopAfter_drawId_bind, Program.stopAfter_zero]

theorem countAndRead_uncounted {error : RepositoryError}
    (hincrement : VectorClockRepo.incrementVectorClock
      (env.libraries.uuid written.drawnIds) env.now resourceId currentDeviceId
        (drawn written) = .error error) (steps : Nat) :
    (countAndRead env resourceId userId currentDeviceId).stopAfter (steps + 2) written =
      drawn written := by
  rw [countAndRead, stopAfter_drawId_bind, update, Program.stopAfter_write_bind, hincrement]
  rfl

variable (hincrement : VectorClockRepo.incrementVectorClock
  (env.libraries.uuid written.drawnIds) env.now resourceId currentDeviceId
    (drawn written) = .ok counted)

include hincrement

theorem countAndRead_counted (steps : Nat) :
    (countAndRead env resourceId userId currentDeviceId).stopAfter (steps + 2) written =
      counted := by
  rw [countAndRead, stopAfter_drawId_bind, update, Program.stopAfter_write_bind, hincrement]
  cases steps with
  | zero => exact Program.stopAfter_zero _ _
  | succ steps =>
      dsimp only [Except.mapError]
      rw [getResourceByIdDirect, query, Program.stopAfter_read_bind]
      cases ResourceRepo.findById resourceId userId counted with
      | error error => rfl
      | ok row => exact Program.stopAfter_done steps _ _

theorem countAndRead_fail (steps : Nat) (error : ServiceError) :
    (countAndRead env resourceId userId currentDeviceId).failAfter (steps + 2) error
        written =
      (getResourceByIdDirect env resourceId userId).failAfter steps error counted := by
  rw [countAndRead, failAfter_drawId_bind, update, Program.write,
    Program.failAfter_atomically_bind, hincrement]
  rfl

end Counting

theorem incrementVectorClock_resourceKeys {freshId : String} {now : Int}
    {ctx' : RepositoryContext}
    (hincrement : VectorClockRepo.incrementVectorClock freshId now resourceId
      currentDeviceId ctx = .ok ctx') : ctx'.resourceKeys = ctx.resourceKeys := by
  unfold VectorClockRepo.incrementVectorClock at hincrement
  split at hincrement
  · cases hincrement
    rfl
  · rw [reportAs_eq_ok] at hincrement
    obtain ⟨-, rfl⟩ := Table.insert_abort_eq_ok hincrement
    rfl

theorem getResourceByIdDirect_fail (steps : Nat) (error : ServiceError) :
    (getResourceByIdDirect env resourceId userId).failAfter (steps + 1) error ctx =
      (getResourceByIdDirect env resourceId userId).run ctx := by
  rw [getResourceByIdDirect, query, Program.read, Program.failAfter_atomically_bind,
    Program.run_bind, Program.run_atomically]
  cases (ResourceRepo.findById resourceId userId ctx).mapError ServiceError.repository with
  | error refusal => exact Program.failAfter_done steps error _ ctx
  | ok row => exact Program.failAfter_done steps error _ ctx

theorem getResourceByIdDirect_written
    (hcipher : replacement? env resourceId data userId ctx = some cipher)
    {counted : RepositoryContext}
    (hresources : counted.resources = (writtenStore env resourceId cipher ctx).resources)
    (hkeys : counted.resourceKeys = ctx.resourceKeys) :
    ∃ resource, ((getResourceByIdDirect env resourceId userId).run counted).1 =
      .ok resource := by
  obtain ⟨row, hfind, hencrypt⟩ := replacement?_eq_some hcipher
  obtain ⟨key, hkey, hsealed⟩ : ∃ key, decryptAesKey env.cert row.encryptedKey = .ok key ∧
      cipher = .sealed key data := by
    unfold CryptoUtils.updateResource at hencrypt
    cases hkey : decryptAesKey env.cert row.encryptedKey with
    | error error =>
        rw [hkey] at hencrypt
        cases hencrypt
    | ok key =>
        rw [hkey] at hencrypt
        exact ⟨key, rfl, (Except.ok.inj hencrypt).symm⟩
  obtain ⟨resource, hresource, hdata⟩ : ∃ resource,
      ResourceRepo.resource? counted resourceId = some resource ∧ resource.data = cipher := by
    have hwritten := storedData?_writtenStore hcipher
    rw [storedData?, ResourceRepo.resource?, ← hresources] at hwritten
    exact Option.map_eq_some_iff.mp hwritten
  have hread : ResourceRepo.findById resourceId userId counted =
      .ok { resource, encryptedKey := row.encryptedKey } := by
    unfold ResourceRepo.findById ResourceKeyRepo.keyFor? at hfind ⊢
    rw [hkeys, hresource]
    split at hfind
    · next hkeyFor =>
        cases hfind
        rw [hkeyFor]
    · cases hfind
  have hplain : decryptResource env.cert resource.data row.encryptedKey = .ok data := by
    rw [decryptResource, hdata, hsealed, hkey]
    exact if_pos rfl
  obtain ⟨shown, hshown⟩ : ∃ shown, decryptSingleResource env
      { resource, encryptedKey := row.encryptedKey } = .ok shown := by
    rw [decryptSingleResource, hplain]
    exact ⟨_, rfl⟩
  use shown
  rw [getResourceByIdDirect, query, Program.run_bind, Program.run_read, hread]
  simp [Except.mapError, liftCrypto, hshown]

section Left

variable (hcipher : replacement? env resourceId data userId ctx = some cipher)

include hcipher

theorem rowReady_iff :
    RowReady env resourceId currentDeviceId ctx ↔
      ∃ counted, VectorClockRepo.incrementVectorClock
        (env.libraries.uuid (writtenStore env resourceId cipher ctx).drawnIds) env.now
          resourceId currentDeviceId (drawn (writtenStore env resourceId cipher ctx)) =
        .ok counted :=
  (@increment_ok_iff _ _ (drawn (writtenStore env resourceId cipher ctx)) _ _
    (resourceExists_of_stored (storedData?_writtenStore hcipher))).symm

theorem updateResource_left_uncounted {steps : Nat}
    (huncounted : steps < 2 ∨ ¬ RowReady env resourceId currentDeviceId ctx) :
    storedData? ((updateResource env resourceId data userId currentDeviceId).stopAfter
        (steps + 2) ctx) resourceId = some cipher ∧
      editCount ((updateResource env resourceId data userId currentDeviceId).stopAfter
        (steps + 2) ctx) resourceId currentDeviceId =
          editCount ctx resourceId currentDeviceId := by
  rw [updateResource_written hcipher]
  have hleft : (countAndRead env resourceId userId currentDeviceId).stopAfter steps
        (writtenStore env resourceId cipher ctx) = writtenStore env resourceId cipher ctx ∨
      (countAndRead env resourceId userId currentDeviceId).stopAfter steps
        (writtenStore env resourceId cipher ctx) =
          drawn (writtenStore env resourceId cipher ctx) := by
    by_cases hearly : steps < 2
    · exact countAndRead_early hearly
    · have hready := huncounted.resolve_left hearly
      obtain ⟨steps, rfl⟩ := Nat.exists_eq_add_of_le (Nat.not_lt.mp hearly)
      cases hincrement : VectorClockRepo.incrementVectorClock
          (env.libraries.uuid (writtenStore env resourceId cipher ctx).drawnIds) env.now
            resourceId currentDeviceId (drawn (writtenStore env resourceId cipher ctx)) with
      | ok counted => exact absurd ((rowReady_iff hcipher).mpr ⟨counted, hincrement⟩) hready
      | error error =>
          rw [Nat.add_comm 2 steps]
          exact .inr (countAndRead_uncounted hincrement steps)
  obtain hleft | hleft := hleft
  · rw [hleft]
    exact ⟨storedData?_writtenStore hcipher, rfl⟩
  · rw [hleft]
    exact ⟨storedData?_writtenStore hcipher, rfl⟩

theorem updateResource_left_counted (steps : Nat)
    (hready : RowReady env resourceId currentDeviceId ctx) :
    storedData? ((updateResource env resourceId data userId currentDeviceId).stopAfter
        (steps + 4) ctx) resourceId = some cipher ∧
      editCount ((updateResource env resourceId data userId currentDeviceId).stopAfter
        (steps + 4) ctx) resourceId currentDeviceId =
          (editCount ctx resourceId currentDeviceId + 1).bmod (2 ^ 32) := by
  obtain ⟨counted, hincrement⟩ := (rowReady_iff hcipher).mp hready
  rw [updateResource_written hcipher (steps + 2), countAndRead_counted hincrement]
  constructor
  · rw [storedData?, ResourceRepo.resource?, incrementVectorClock_resources hincrement]
    exact storedData?_writtenStore hcipher
  · rw [editCount, storedClock?_incrementVectorClock hincrement, Option.getD_some]
    rfl

theorem updateResource_told_counted (steps : Nat) (error : ServiceError)
    (hready : RowReady env resourceId currentDeviceId ctx) :
    (steps = 0 ∧
        ((updateResource env resourceId data userId currentDeviceId).failAfter (steps + 4)
          error ctx).1 = .error error) ∨
      0 < steps ∧ ∃ resource,
        ((updateResource env resourceId data userId currentDeviceId).failAfter (steps + 4)
          error ctx).1 = .ok resource := by
  obtain ⟨counted, hincrement⟩ := (rowReady_iff hcipher).mp hready
  rw [updateResource_written_fail hcipher (steps + 2), countAndRead_fail hincrement]
  cases steps with
  | zero => exact .inl ⟨rfl, rfl⟩
  | succ steps =>
      right
      have hresources : counted.resources =
          (writtenStore env resourceId cipher ctx).resources := by
        rw [incrementVectorClock_resources hincrement]
        rfl
      have hkeys : counted.resourceKeys = ctx.resourceKeys := by
        rw [incrementVectorClock_resourceKeys hincrement]
        rfl
      rw [getResourceByIdDirect_fail]
      exact ⟨Nat.succ_pos _, getResourceByIdDirect_written hcipher hresources hkeys⟩

end Left

end Steps

theorem bmod_succ_ne (count : Int) : (count + 1).bmod (2 ^ 32) ≠ count := by
  simp only [Int.bmod]
  split <;> omega

section Atomicity

variable {env : ServiceEnv} {resourceId : String} {data : JsonText}
variable {userId currentDeviceId : String} {interruption : Interruption}
variable {ctx : RepositoryContext}

theorem Atomic.of_unchanged
    (hdata : storedData? ((updateResource env resourceId data userId
      currentDeviceId).stopAfter interruption.steps ctx) resourceId =
        storedData? ctx resourceId)
    (hcount : editCount ((updateResource env resourceId data userId
      currentDeviceId).stopAfter interruption.steps ctx) resourceId currentDeviceId =
        editCount ctx resourceId currentDeviceId) :
    Atomic env resourceId data userId currentDeviceId interruption ctx := by
  constructor
  · rw [Interruption.after_snd]
    exact .nothing hdata hcount
  · intro error _
    rw [Interruption.after_snd]
    exact ⟨hdata, hcount⟩

theorem Atomic.of_kept
    (hkept : (updateResource env resourceId data userId currentDeviceId).stopAfter
      interruption.steps ctx = ctx) :
    Atomic env resourceId data userId currentDeviceId interruption ctx :=
  .of_unchanged (by rw [hkept]) (by rw [hkept])

theorem Harmless.of_atomic {cipher : AesText}
    (hcipher : replacement? env resourceId data userId ctx = some cipher)
    (hatomic : Atomic env resourceId data userId currentDeviceId interruption ctx) :
    Harmless env resourceId data userId currentDeviceId interruption ctx := by
  by_cases hearly : interruption.steps < 2
  · exact .early hearly
  · have hwhole := hatomic.whole
    obtain ⟨steps, hsteps⟩ := Nat.exists_eq_add_of_le' (Nat.not_lt.mp hearly)
    rw [Interruption.after_snd, hsteps] at hwhole
    by_cases huncounted : steps < 2 ∨ ¬ RowReady env resourceId currentDeviceId ctx
    · obtain ⟨hdata, hcount⟩ := updateResource_left_uncounted hcipher huncounted
      cases hwhole with
      | all _ _ hraised => omega
      | nothing hsame _ =>
          refine .stored (by rw [hcipher, ← hdata, hsame]) ?_
          exact huncounted.imp_left fun hsoon => by omega
    · obtain ⟨hlate, hready⟩ := not_or.mp huncounted
      rw [not_not] at hready
      obtain ⟨steps, rfl⟩ := Nat.exists_eq_add_of_le' (Nat.not_lt.mp hlate)
      obtain ⟨-, hcount⟩ := updateResource_left_counted hcipher steps hready
      have hfits : CountFits resourceId currentDeviceId ctx := by
        cases hwhole with
        | all _ _ hraised => exact hcount.symm.trans hraised
        | nothing _ hsame => exact absurd (hcount.symm.trans hsame) (bmod_succ_ne _)
      refine .counted (by omega) hready hfits ?_
      rintro error rfl
      obtain ⟨-, htold⟩ | ⟨hpos, -⟩ := updateResource_told_counted hcipher 0 error hready
      · have hsame := (hatomic.failed error (congrArg some htold)).2
        rw [Interruption.after_snd] at hsame
        obtain rfl : steps = 0 := by
          change 4 = steps + 2 + 2 at hsteps
          omega
        exact bmod_succ_ne _ (hcount.symm.trans hsame)
      · omega

theorem Atomic.of_harmless {cipher : AesText}
    (hcipher : replacement? env resourceId data userId ctx = some cipher)
    (hharmless : Harmless env resourceId data userId currentDeviceId interruption ctx) :
    Atomic env resourceId data userId currentDeviceId interruption ctx := by
  by_cases hearly : interruption.steps < 2
  · exact .of_kept (updateResource_early hearly)
  · obtain ⟨steps, hsteps⟩ := Nat.exists_eq_add_of_le' (Nat.not_lt.mp hearly)
    cases hharmless with
    | early hsoon => exact absurd hsoon hearly
    | refused hnone =>
        rw [hcipher] at hnone
        cases hnone
    | stored hstored huncounted =>
        obtain ⟨hdata, hcount⟩ := @updateResource_left_uncounted _ _ _ _ _ _ _ hcipher steps
          (huncounted.imp_left fun hsoon => by omega)
        refine .of_unchanged ?_ ?_
        · rw [hsteps, hdata, ← hcipher, hstored]
        · rw [hsteps, hcount]
    | counted hlate hready hfits hread =>
        obtain ⟨steps, rfl⟩ : ∃ later, steps = later + 2 :=
          ⟨steps - 2, by omega⟩
        obtain ⟨hdata, hcount⟩ := updateResource_left_counted hcipher steps hready
        constructor
        · rw [Interruption.after_snd, hsteps]
          exact .all hcipher hdata (hcount.trans hfits)
        · intro error htold
          exfalso
          cases interruption with
          | stop _ => cases htold
          | fail count cause =>
              obtain rfl : count = steps + 4 := hsteps
              obtain ⟨rfl, -⟩ | ⟨-, resource, hdone⟩ :=
                updateResource_told_counted hcipher steps cause hready
              · exact hread cause rfl
              · have herror := (congrArg some hdone).symm.trans htold
                cases herror

end Atomicity

/-- An update is all or nothing exactly when the interruption does no harm. -/
theorem updateResource_atomic_iff (env : ServiceEnv) (resourceId : String) (data : JsonText)
    (userId currentDeviceId : String) (interruption : Interruption)
    (ctx : RepositoryContext) :
    Atomic env resourceId data userId currentDeviceId interruption ctx ↔
      Harmless env resourceId data userId currentDeviceId interruption ctx := by
  cases hcipher : replacement? env resourceId data userId ctx with
  | some cipher => exact ⟨.of_atomic hcipher, .of_harmless hcipher⟩
  | none =>
      constructor
      · intro _
        exact .refused hcipher
      · intro _
        exact .of_kept (updateResource_refused hcipher interruption.steps)

def interruptedEnv : ServiceEnv :=
  { libraries := .tabled [], cert := some "R", now := 0, domain := "livnote"
    fuel := 8 }

def interruptedStore : RepositoryContext :=
  { resources := [.new "a" 0 .notes (.sealed "k" (.encoded .null)) "folder" "" "R"]
    resourceKeys := [.new "key-R" 0 "a" "R" (.sealed "R" "k") true]
    vectorClocks := [.ofDomain (.new "clock" 0 "a" "phone" 1)] }

/-- The call stops between its writes: the note has changed and nobody will be told. -/
theorem updateResource_uncounted :
    ¬ Atomic interruptedEnv "a" (.encoded (.object [])) "R" "phone" (.stop 2)
      interruptedStore := by
  rintro ⟨hwhole, -⟩
  cases hwhole with
  | all _ _ hraised => exact absurd hraised (by decide +kernel)
  | nothing hsame _ =>
      have hdata : some (AesText.sealed "k" (.encoded (.object []))) =
          some (AesText.sealed "k" (.encoded .null)) := hsame
      simp at hdata

end Osvauld.Services
