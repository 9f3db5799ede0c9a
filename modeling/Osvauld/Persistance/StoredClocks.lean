import Osvauld.Persistance.ClockOrder
import Osvauld.Persistance.NewRows

namespace Osvauld.Persistance

open Osvauld.Core Data

/-! Clocks on their way through the column that holds them. A clock is a `u64`, the
column an `i32`. -/

def FitsColumn (value : Nat) : Prop :=
  value < 2 ^ 31 ∨ 2 ^ 64 - 2 ^ 31 ≤ value ∧ value < 2 ^ 64

theorem asU64_asI32_eq_iff (value : Nat) :
    asU64 (asI32 value) = value ↔ FitsColumn value := by
  unfold asU64 asI32 FitsColumn
  simp only [Int.bmod]
  split <;> omega

def loadedClock? (ctx : RepositoryContext) (resourceId deviceId : String) : Option Nat :=
  ResourceVectorClock.clockOf? (ResourceRepo.clocksOf ctx resourceId) deviceId

/-- The clocks of a resource as a bulk update would leave them if it kept every value
that it is told. -/
def toldClocks (updates additions : List ResourceVectorClock) (ctx : RepositoryContext)
    (resourceId : String) : List ResourceVectorClock :=
  ResourceVectorClock.applyChanges (ResourceRepo.clocksOf ctx resourceId)
    (updates.filter fun clock => clock.resourceId = resourceId)
    (additions.filter fun clock => clock.resourceId = resourceId)

def changeKey (clock : ResourceVectorClock) : String × String :=
  (clock.resourceId, clock.deviceId)

/-- The value that a bulk update sets for a device: of the updates the last one when
there is a row for them, else the first addition. -/
def setValue? (updates additions : List ResourceVectorClock) (ctx : RepositoryContext)
    (resourceId deviceId : String) : Option Nat :=
  if (storedClock? ctx resourceId deviceId).isSome then
    KeyedMaximum.valueAt? changeKey ResourceVectorClock.clockValue updates.reverse
      (resourceId, deviceId)
  else
    KeyedMaximum.valueAt? changeKey ResourceVectorClock.clockValue additions
      (resourceId, deviceId)

theorem loadedClock?_eq (ctx : RepositoryContext) (resourceId deviceId : String) :
    loadedClock? ctx resourceId deviceId =
      (storedClock? ctx resourceId deviceId).map asU64 := by
  unfold loadedClock? ResourceRepo.clocksOf storedClock? ResourceVectorClock.clockOf?
  rw [KeyedMaximum.valueAt?, List.find?_map, Option.map_map]
  have hrow := KeyedMaximum.valueAt?_filter ResourceVectorClockModel.deviceId
    (fun row => asU64 row.clockValue) ResourceVectorClockModel.resourceId resourceId
    ctx.vectorClocks deviceId
  unfold KeyedMaximum.valueAt? at hrow ⊢
  rw [Option.map_map]
  exact hrow

theorem clockOf?_toldClocks (updates additions : List ResourceVectorClock)
    (ctx : RepositoryContext) (resourceId deviceId : String) :
    ResourceVectorClock.clockOf? (toldClocks updates additions ctx resourceId) deviceId =
      ((loadedClock? ctx resourceId deviceId).map fun held =>
        (KeyedMaximum.valueAt? changeKey ResourceVectorClock.clockValue updates.reverse
          (resourceId, deviceId)).getD held).or
        (KeyedMaximum.valueAt? changeKey ResourceVectorClock.clockValue additions
          (resourceId, deviceId)) := by
  rw [toldClocks, ResourceVectorClock.applyChanges, ResourceVectorClock.clockOf?,
    KeyedMaximum.valueAt?_append,
    KeyedMaximum.valueAt?_assignAll_reverse ResourceVectorClock.setClock_overwrites,
    ← List.filter_reverse, KeyedMaximum.valueAt?_filter, KeyedMaximum.valueAt?_filter]
  rfl

theorem valueAt?_ofDomain (changes : List ResourceVectorClock) (key : String × String) :
    KeyedMaximum.valueAt? clockKey ResourceVectorClockModel.clockValue
        (changes.map ResourceVectorClockModel.ofDomain) key =
      (KeyedMaximum.valueAt? changeKey ResourceVectorClock.clockValue changes key).map
        asI32 := by
  unfold KeyedMaximum.valueAt?
  rw [List.find?_map, Option.map_map, Option.map_map]
  simp only [Function.comp_def, clockKey_ofDomain, clockValue_ofDomain]
  congr

variable {ctx ctx' : RepositoryContext}

theorem storedClock?_updateVectorClocks {updates additions : List ResourceVectorClock}
    (hupdate : VectorClockRepo.updateVectorClocks updates additions ctx = .ok ctx')
    (resourceId deviceId : String) :
    storedClock? ctx' resourceId deviceId =
      ((storedClock? ctx resourceId deviceId).map fun held =>
        ((KeyedMaximum.valueAt? changeKey ResourceVectorClock.clockValue updates.reverse
          (resourceId, deviceId)).map asI32).getD held).or
        ((KeyedMaximum.valueAt? changeKey ResourceVectorClock.clockValue additions
          (resourceId, deviceId)).map asI32) := by
  rw [VectorClockRepo.updateVectorClocks, reportAs_eq_ok,
    vectorClocks_keyed.insertAll_abort_eq_ok_iff] at hupdate
  obtain ⟨-, rfl⟩ := hupdate
  calc storedClock? _ resourceId deviceId
      = KeyedMaximum.valueAt? clockKey ResourceVectorClockModel.clockValue
          (updates.foldl (fun rows change => VectorClockRepo.setClock change rows)
            ctx.vectorClocks ++ additions.map ResourceVectorClockModel.ofDomain)
          (resourceId, deviceId) := rfl
    _ = _ := by
        rw [ClocksRise.foldl_setClock_eq, KeyedMaximum.valueAt?_append,
          KeyedMaximum.valueAt?_assignAll_reverse ClocksRise.setRow_overwrites,
          ← List.map_reverse, valueAt?_ofDomain, valueAt?_ofDomain, storedClock?]

theorem cast_back_eq_iff {Column : Type} (cast : Nat → Column) (back : Column → Nat)
    (stored : Option Column) (updated added : Option Nat) :
    ((stored.map fun held => (updated.map cast).getD held).or (added.map cast)).map back =
        ((stored.map back).map fun held => updated.getD held).or added ↔
      ∀ value, (if stored.isSome then updated else added) = some value →
        back (cast value) = value := by
  cases stored with
  | none => cases added <;> simp
  | some held => cases updated <;> simp

theorem loadedClock?_updateVectorClocks_eq_iff {updates additions : List ResourceVectorClock}
    (hupdate : VectorClockRepo.updateVectorClocks updates additions ctx = .ok ctx')
    (resourceId deviceId : String) :
    loadedClock? ctx' resourceId deviceId =
        ResourceVectorClock.clockOf? (toldClocks updates additions ctx resourceId)
          deviceId ↔
      ∀ value, setValue? updates additions ctx resourceId deviceId = some value →
        FitsColumn value := by
  rw [clockOf?_toldClocks, loadedClock?_eq, loadedClock?_eq,
    storedClock?_updateVectorClocks hupdate, setValue?]
  simp only [cast_back_eq_iff, asU64_asI32_eq_iff]

theorem storedClock?_incrementVectorClock {freshId : String} {now : Int}
    {resourceId deviceId : String}
    (hincrement : VectorClockRepo.incrementVectorClock freshId now resourceId deviceId
      ctx = .ok ctx') :
    storedClock? ctx' resourceId deviceId =
      some (((storedClock? ctx resourceId deviceId).getD 0 + 1).bmod (2 ^ 32)) := by
  unfold VectorClockRepo.incrementVectorClock at hincrement
  rw [ClocksRise.isFor_eq] at hincrement
  unfold storedClock? KeyedMaximum.valueAt?
  split at hincrement
  · next model hfound =>
      cases hincrement
      have hkey : ((fun row : ResourceVectorClockModel =>
          decide (clockKey row = (resourceId, deviceId))) ∘ fun clock =>
            if clock.id = model.id then
              { clock with
                clockValue := (model.clockValue + 1).bmod (2 ^ 32), updatedAt := now }
            else clock) = fun row => decide (clockKey row = (resourceId, deviceId)) := by
        funext clock
        rw [Function.comp_apply, apply_ite clockKey]
        simp [clockKey]
      rw [List.find?_map, hkey, hfound]
      simp
  · next hmissing =>
      rw [reportAs_eq_ok] at hincrement
      obtain ⟨-, rfl⟩ := Table.insert_abort_eq_ok hincrement
      have hone : asI32 1 = 1 := by decide
      simp [Table.vectorClocks, List.find?_append, hmissing,
        ResourceVectorClock.initializeClock, ResourceVectorClock.new, hone, Int.bmod]

theorem asU64_lt_succ_iff {held : Int} (hheld : -2 ^ 31 ≤ held ∧ held < 2 ^ 31) :
    asU64 held < asU64 ((held + 1).bmod (2 ^ 32)) ↔ asU64 held ≠ 2 ^ 64 - 1 := by
  unfold asU64
  simp only [Int.bmod]
  split <;> omega

/-- A clock is loaded as it was told exactly when the value set for it fits the column,
and an increment raises what is loaded except at the greatest `u64`. -/
theorem loadedClock?_faithful_iff {ctx : RepositoryContext}
    (hcolumn : ∀ clock ∈ ctx.vectorClocks,
      -2 ^ 31 ≤ clock.clockValue ∧ clock.clockValue < 2 ^ 31) :
    (∀ updates additions ctx',
        VectorClockRepo.updateVectorClocks updates additions ctx = .ok ctx' →
      ∀ resourceId deviceId,
        loadedClock? ctx' resourceId deviceId =
            ResourceVectorClock.clockOf? (toldClocks updates additions ctx resourceId)
              deviceId ↔
          ∀ value, setValue? updates additions ctx resourceId deviceId = some value →
            FitsColumn value) ∧
      ∀ freshId now resourceId deviceId ctx',
        VectorClockRepo.incrementVectorClock freshId now resourceId deviceId ctx =
            .ok ctx' →
          (loadedClock? ctx resourceId deviceId < loadedClock? ctx' resourceId deviceId ↔
            loadedClock? ctx resourceId deviceId ≠ some (2 ^ 64 - 1)) := by
  constructor
  · intro updates additions ctx' hupdate
    exact loadedClock?_updateVectorClocks_eq_iff hupdate
  · intro freshId now resourceId deviceId ctx' hincrement
    rw [loadedClock?_eq, loadedClock?_eq, storedClock?_incrementVectorClock hincrement]
    cases hstored : storedClock? ctx resourceId deviceId with
    | none => simp
    | some held =>
        obtain ⟨row, hrow, -, rfl⟩ := KeyedMaximum.mem_of_valueAt? _ _ hstored
        have hsucc := asU64_lt_succ_iff (hcolumn row hrow)
        simpa only [Option.map_some, Option.getD_some, Option.some_lt_some, ne_eq,
          Option.some.injEq] using hsucc

def notedStore (clockValue : Int) : RepositoryContext :=
  { resources := [.new "a" 0 .notes (.other "text") "folder" "" "R"]
    devices := [{ id := "phone", deviceKey := "", userId := "R", createdAt := 0
                  updatedAt := 0, lastSyncedAt := none }]
    vectorClocks := [{ id := "clock", resourceId := "a", deviceId := "phone", clockValue
                       createdAt := 0, updatedAt := 0 }] }

def phoneAt (clockValue : Nat) : ResourceVectorClock :=
  .new "" 0 "a" "phone" clockValue

theorem loadedClock?_faithful_phone :
    ∃ after, VectorClockRepo.updateVectorClocks [phoneAt 7] [] (notedStore 5) = .ok after ∧
      loadedClock? after "a" "phone" =
        ResourceVectorClock.clockOf? (toldClocks [phoneAt 7] [] (notedStore 5) "a")
          "phone" := by
  have hcolumn : ∀ clock ∈ (notedStore 5).vectorClocks,
      -2 ^ 31 ≤ clock.clockValue ∧ clock.clockValue < 2 ^ 31 := by
    decide
  refine ⟨_, rfl, ((loadedClock?_faithful_iff hcolumn).1 [phoneAt 7] [] _ rfl "a"
    "phone").mpr ?_⟩
  intro value hvalue
  obtain rfl : value = 7 := Option.some.inj (hvalue.symm.trans (by decide +kernel))
  exact .inl (by decide)

/-- A peer's clock is stored as one that is behind the clock it replaces. -/
theorem loadedClock?_lowered :
    ∃ after, VectorClockRepo.updateVectorClocks [phoneAt (2 ^ 32)] [] (notedStore 5) =
        .ok after ∧
      loadedClock? (notedStore 5) "a" "phone" = some 5 ∧
      ResourceVectorClock.clockOf? (toldClocks [phoneAt (2 ^ 32)] [] (notedStore 5) "a")
        "phone" = some (2 ^ 32) ∧
      loadedClock? after "a" "phone" = some 0 :=
  ⟨_, rfl, by decide +kernel, by decide +kernel, by decide +kernel⟩

end Osvauld.Persistance
