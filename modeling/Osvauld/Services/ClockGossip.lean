import Osvauld.Data.Gossip
import Osvauld.Persistance.ResourceFrame
import Osvauld.Persistance.StoredClocks
import Osvauld.Services.ManifestComparison
import Osvauld.Services.ResourceService

namespace Osvauld.Persistance

open Osvauld.Core Data KeyedInserts

/-! Tables of clocks that keep their constraints. -/

abbrev WellClocked (ctx : RepositoryContext) : Prop :=
  WellKeyed ResourceVectorClockModel.id clockPair ctx.vectorClocks

variable {ctx ctx' : RepositoryContext} {resourceId deviceId freshId : String} {now : Int}
variable {rows batch : List ResourceVectorClockModel}

theorem wellClocked_append (hclocked : WellKeyed ResourceVectorClockModel.id clockPair rows)
    {admits admits' : ResourceVectorClockModel → Prop}
    (hids : Addable ResourceVectorClockModel.id admits rows batch)
    (hkeys : Addable clockPair admits' rows batch) :
    WellKeyed ResourceVectorClockModel.id clockPair (rows ++ batch) := by
  constructor
  · rw [List.map_append]
    apply hclocked.ids.append hids.distinct
    intro id hheld hnew
    obtain ⟨row, hrow, rfl⟩ := List.mem_map.mp hnew
    exact hids.free row hrow hheld
  · rw [List.map_append]
    apply hclocked.keys.append hkeys.distinct
    intro key hheld hnew
    obtain ⟨row, hrow, rfl⟩ := List.mem_map.mp hnew
    exact hkeys.free row hrow hheld

theorem wellClocked_map {change : ResourceVectorClockModel → ResourceVectorClockModel}
    (hclocked : WellKeyed ResourceVectorClockModel.id clockPair rows)
    (hid : ∀ row, (change row).id = row.id) (hkey : ∀ row, clockPair (change row) = clockPair row) :
    WellKeyed ResourceVectorClockModel.id clockPair (rows.map change) := by
  constructor
  · rw [List.map_map]
    exact (List.map_congr_left fun row _ => hid row) ▸ hclocked.ids
  · rw [List.map_map]
    exact (List.map_congr_left fun row _ => hkey row) ▸ hclocked.keys

theorem WellClocked.updateVectorClocks {updates additions : List ResourceVectorClock}
    (hclocked : WellClocked ctx)
    (hupdate : VectorClockRepo.updateVectorClocks updates additions ctx = .ok ctx') :
    WellClocked ctx' := by
  rw [VectorClockRepo.updateVectorClocks, setClock_foldl, reportAs_eq_ok,
    vectorClocks_keyed.insertAll_abort_eq_ok_iff] at hupdate
  obtain ⟨⟨hids, hkeys⟩, rfl⟩ := hupdate
  exact wellClocked_append (wellClocked_map hclocked (fun _ => rfl) fun _ => rfl) hids hkeys

theorem WellClocked.incrementVectorClock (hclocked : WellClocked ctx)
    (hincrement : VectorClockRepo.incrementVectorClock freshId now resourceId deviceId ctx =
      .ok ctx') : WellClocked ctx' := by
  unfold VectorClockRepo.incrementVectorClock at hincrement
  split at hincrement
  · cases hincrement
    apply wellClocked_map hclocked <;> intro row <;> split <;> rfl
  · rw [reportAs_eq_ok, ← Table.insertAll_singleton,
      vectorClocks_keyed.insertAll_abort_eq_ok_iff] at hincrement
    obtain ⟨⟨hids, hkeys⟩, rfl⟩ := hincrement
    exact wellClocked_append hclocked hids hkeys

theorem storedClock?_increment_other (hclocked : WellClocked ctx)
    (hincrement : VectorClockRepo.incrementVectorClock freshId now resourceId deviceId ctx =
      .ok ctx') {other : String} (hother : other ≠ deviceId) :
    storedClock? ctx' resourceId other = storedClock? ctx resourceId other := by
  have hkey : (resourceId, deviceId) ≠ (resourceId, other) := fun heq =>
    hother (Prod.mk.inj heq).2.symm
  unfold VectorClockRepo.incrementVectorClock at hincrement
  rw [ClocksRise.isFor_eq] at hincrement
  unfold storedClock? KeyedMaximum.valueAt?
  split at hincrement
  · next model hfound =>
      cases hincrement
      have hpair : ((fun row : ResourceVectorClockModel =>
          decide (clockKey row = (resourceId, other))) ∘ fun clock =>
            if clock.id = model.id then
              { clock with
                clockValue := (model.clockValue + 1).bmod (2 ^ 32), updatedAt := now }
            else clock) = fun row => decide (clockKey row = (resourceId, other)) := by
        funext clock
        rw [Function.comp_apply, apply_ite clockKey]
        simp [clockKey]
      rw [List.find?_map, hpair, Option.map_map]
      cases hheld : ctx.vectorClocks.find? fun row =>
          decide (clockKey row = (resourceId, other)) with
      | none => rfl
      | some row =>
          have hne : row.id ≠ model.id := by
            intro hid
            obtain rfl : row = model := List.inj_on_of_nodup_map hclocked.ids
              (List.mem_of_find?_eq_some hheld) (List.mem_of_find?_eq_some hfound) hid
            have hours := List.find?_some hfound
            have htheirs := List.find?_some hheld
            simp only [decide_eq_true_eq] at hours htheirs
            exact hkey (hours.symm.trans htheirs)
          simp [hne]
  · rw [reportAs_eq_ok, vectorClocks_keyed.insert_abort_eq_ok_iff] at hincrement
    obtain ⟨-, rfl⟩ := hincrement
    simp [Table.vectorClocks, List.find?_append, ResourceVectorClock.initializeClock,
      ResourceVectorClock.new, Ne.symm hother]

theorem asU64_bmod_succ {value : Int} (hbound : asU64 value < 2 ^ 31 - 1) :
    asU64 ((value + 1).bmod (2 ^ 32)) = asU64 value + 1 := by
  unfold asU64 at *
  simp only [Int.bmod]
  split <;> omega

def countOf (clocks : List ResourceVectorClock) (deviceId : String) : Nat :=
  (ResourceVectorClock.clockOf? clocks deviceId).getD 0

theorem countOf_clocksOf : countOf (ResourceRepo.clocksOf ctx resourceId) =
    fun device => (loadedClock? ctx resourceId device).getD 0 := rfl

theorem loadedClock?_increment (hclocked : WellClocked ctx)
    (hbound : countOf (ResourceRepo.clocksOf ctx resourceId) deviceId < 2 ^ 31 - 1)
    (hincrement : VectorClockRepo.incrementVectorClock freshId now resourceId deviceId ctx =
      .ok ctx') :
    loadedClock? ctx' resourceId = Function.update (loadedClock? ctx resourceId) deviceId
      (some (countOf (ResourceRepo.clocksOf ctx resourceId) deviceId + 1)) := by
  funext device
  by_cases hdevice : device = deviceId
  · subst hdevice
    simp only [countOf_clocksOf, loadedClock?_eq] at hbound
    rw [Function.update_self]
    simp only [countOf_clocksOf, loadedClock?_eq, storedClock?_incrementVectorClock hincrement]
    cases hstored : storedClock? ctx resourceId device with
    | none => rfl
    | some held =>
        rw [hstored] at hbound
        exact congrArg some (asU64_bmod_succ hbound)
  · rw [Function.update_of_ne hdevice, loadedClock?_eq, loadedClock?_eq,
      storedClock?_increment_other hclocked hincrement hdevice]

theorem loadedClock?_of_added {updates additions : List ResourceVectorClock}
    (hupdate : VectorClockRepo.updateVectorClocks updates additions ctx = .ok ctx')
    {change : ResourceVectorClock} (hchange : change ∈ additions) :
    loadedClock? ctx change.resourceId change.deviceId = none := by
  obtain ⟨⟨-, hkeys⟩, -⟩ := updateVectorClocks_eq_ok_iff.mp hupdate
  have hfree := hkeys.free _ (List.mem_map_of_mem hchange)
  rw [loadedClock?_eq, Option.map_eq_none_iff, storedClock?, KeyedMaximum.valueAt?_eq_none_iff]
  intro row hrow hkey
  exact hfree (List.mem_map.mpr ⟨row, hrow, hkey⟩)

end Osvauld.Persistance

namespace Osvauld.Services

open Osvauld.Core Data Persistance Core.ResourceVectorClock

/-! The clocks of one resource on their way between devices: a device offers its clocks,
and what the receiver finds in its own is written on both sides, sooner or later. -/

structure ClockOffer where
  sender : String
  clocks : List ResourceVectorClock

structure ClockWrite where
  holder : String
  updateClock : List ResourceVectorClock
  addClock : List ResourceVectorClock

structure ClockNetwork where
  stores : String → RepositoryContext
  offers : List ClockOffer := []
  writes : List ClockWrite := []

inductive ClockEvent
  | edit (deviceId freshId : String) (now : Int)
  | offer (deviceId : String)
  | compare (deviceId : String) (index : Nat)
  | write (index : Nat)
  /-- Whatever else a device does to its store. -/
  | other (deviceId : String) (ctx : RepositoryContext)

namespace ClockNetwork

def setStore (network : ClockNetwork) (deviceId : String) (ctx : RepositoryContext) :
    ClockNetwork :=
  { network with stores := Function.update network.stores deviceId ctx }

def attempt (network : ClockNetwork) (deviceId : String)
    (write : RepositoryContext → Except RepositoryError RepositoryContext) : ClockNetwork :=
  match write (network.stores deviceId) with
  | .ok after => network.setStore deviceId after
  | .error _ => network

def clocksAt (network : ClockNetwork) (resourceId deviceId : String) :
    List ResourceVectorClock :=
  ResourceRepo.clocksOf (network.stores deviceId) resourceId

/-- Both halves of what `mergeVectorClocks` finds. -/
def compare (network : ClockNetwork) (resourceId deviceId : String) (offer : ClockOffer) :
    ClockNetwork :=
  let result := merge (network.clocksAt resourceId deviceId) offer.clocks
  { network with
    writes := network.writes ++
      [⟨deviceId, result.updateLocal, result.addLocal⟩,
        ⟨offer.sender, result.updateRemote, result.addRemote⟩] }

def step (resourceId : String) (event : ClockEvent) (network : ClockNetwork) : ClockNetwork :=
  match event with
  | .edit deviceId freshId now =>
      network.attempt deviceId
        (VectorClockRepo.incrementVectorClock freshId now resourceId deviceId)
  | .offer deviceId =>
      { network with
        offers := network.offers ++ [⟨deviceId, network.clocksAt resourceId deviceId⟩] }
  | .compare deviceId index =>
      match network.offers[index]? with
      | some offer => network.compare resourceId deviceId offer
      | none => network
  | .write index =>
      match network.writes[index]? with
      | some write =>
          network.attempt write.holder
            (VectorClockRepo.updateVectorClocks write.updateClock write.addClock)
      | none => network
  | .other deviceId ctx => network.setStore deviceId ctx

def ownCounts (network : ClockNetwork) (resourceId deviceId : String) : Nat :=
  countOf (network.clocksAt resourceId deviceId) deviceId

/-- What the devices have heard of, as far as their clocks tell. -/
def knowledge (resourceId : String) (network : ClockNetwork) :
    Gossip String (String × Nat) where
  made := counted (network.ownCounts resourceId)
  heard device := counted (countOf (network.clocksAt resourceId device))
  told := ∅

/-- No clock is set behind the one that is loaded. -/
def Ahead (ctx : RepositoryContext) (updates : List ResourceVectorClock) : Prop :=
  ∀ change ∈ updates, ∀ held ∈ loadedClock? ctx change.resourceId change.deviceId,
    held ≤ change.clockValue

instance (ctx : RepositoryContext) (updates : List ResourceVectorClock) :
    Decidable (Ahead ctx updates) :=
  inferInstanceAs (Decidable (∀ change ∈ updates, ∀ held ∈ _, _ ≤ _))

abbrev Grows (resourceId : String) (ctx ctx' : RepositoryContext) : Prop :=
  KeyedMaximum.Dominates deviceId clockValue (ResourceRepo.clocksOf ctx' resourceId)
    (ResourceRepo.clocksOf ctx resourceId)

/-- Clocks may come, but none counts more or less than before. -/
structure Quiet (resourceId : String) (ctx ctx' : RepositoryContext) : Prop where
  clocked : WellClocked ctx'
  grows : Grows resourceId ctx ctx'
  counts : countOf (ResourceRepo.clocksOf ctx' resourceId) =
    countOf (ResourceRepo.clocksOf ctx resourceId)

/-- An edit finds room in the column, and a write no clock that has gone ahead of it. -/
def Admissible (resourceId : String) (event : ClockEvent) (network : ClockNetwork) : Prop :=
  match event with
  | .edit deviceId _ _ => network.ownCounts resourceId deviceId < 2 ^ 31 - 1
  | .write index => ∀ write ∈ network.writes[index]?,
      Ahead (network.stores write.holder) write.updateClock
  | .other deviceId ctx => Quiet resourceId (network.stores deviceId) ctx
  | _ => True

/-- Nothing is under way, and no device counts more of another's edits than that device. -/
structure Started (resourceId : String) (network : ClockNetwork) : Prop where
  clocked : ∀ device, WellClocked (network.stores device)
  known : ∀ holder device, countOf (network.clocksAt resourceId holder) device ≤
    network.ownCounts resourceId device
  bounded : ∀ device, network.ownCounts resourceId device < 2 ^ 31
  quiet : network.offers = [] ∧ network.writes = []

end ClockNetwork

/-! Changes that are written later than they were found. -/

section Delayed

variable {ctx ctx' : RepositoryContext} {resourceId : String}
variable {updates additions table other : List ResourceVectorClock}
variable {told told' : Set (Set (String × Nat))}

/-- The changes raise clocks which the store has, or has gone beyond, to those of a table
that has been told of. -/
structure Carries (resourceId : String) (told : Set (Set (String × Nat)))
    (ctx : RepositoryContext) (updates additions table other : List ResourceVectorClock) :
    Prop where
  raises : KeyedMaximum.Raises deviceId clockValue table other updates additions
  told : counted (countOf other) ∈ told
  behind : KeyedMaximum.Dominates deviceId clockValue (ResourceRepo.clocksOf ctx resourceId) table
  resources : ∀ change ∈ updates ++ additions, change.resourceId = resourceId

theorem Carries.mono (hcarries : Carries resourceId told ctx updates additions table other)
    (htold : told ⊆ told') (hgrows : ClockNetwork.Grows resourceId ctx ctx') :
    Carries resourceId told' ctx' updates additions table other where
  raises := hcarries.raises
  told := htold hcarries.told
  behind := hgrows.trans hcarries.behind
  resources := hcarries.resources

theorem valueAt?_changeKey {changes : List ResourceVectorClock}
    (hresources : ∀ change ∈ changes, change.resourceId = resourceId) (device : String) :
    KeyedMaximum.valueAt? changeKey clockValue changes (resourceId, device) =
      clockOf? changes device := by
  induction changes with
  | nil => rfl
  | cons change changes ih =>
      obtain ⟨hchange, hrest⟩ := List.forall_mem_cons.mp hresources
      rw [clockOf?, KeyedMaximum.valueAt?_cons, KeyedMaximum.valueAt?_cons, ih hrest]
      simp [changeKey, hchange]

theorem clockOf?_reverse {changes : List ResourceVectorClock}
    (hnodup : (changes.map deviceId).Nodup) (device : String) :
    clockOf? changes.reverse device = clockOf? changes device := by
  have hreverse : (changes.reverse.map deviceId).Nodup := by
    rw [List.map_reverse]
    exact List.nodup_reverse.mpr hnodup
  ext value
  rw [clockOf?, clockOf?, KeyedMaximum.valueAt?_eq_some_iff _ _ hnodup,
    KeyedMaximum.valueAt?_eq_some_iff _ _ hreverse]
  simp

/-- Written without setting a clock back, they raise all clocks to those of the table. -/
theorem Carries.loadedClock? (hcarries : Carries resourceId told ctx updates additions table other)
    (hfits : ∀ device, countOf other device < 2 ^ 31) (hahead : ClockNetwork.Ahead ctx updates)
    (hupdate : VectorClockRepo.updateVectorClocks updates additions ctx = .ok ctx')
    (device : String) :
    loadedClock? ctx' resourceId device =
      max (loadedClock? ctx resourceId device) (clockOf? other device) := by
  obtain ⟨hupdated, hadded⟩ := List.forall_mem_append.mp hcarries.resources
  have hupdates : KeyedMaximum.valueAt? changeKey clockValue updates.reverse
      (resourceId, device) = clockOf? updates device := by
    rw [valueAt?_changeKey fun change hchange =>
        hupdated change (List.mem_reverse.mp hchange),
      clockOf?_reverse hcarries.raises.updates_nodup]
  have hadditions := valueAt?_changeKey hadded device
  have hupdatesIff : ∀ value, clockOf? updates device = some value ↔ _ :=
    hcarries.raises.updates_iff device
  have hadditionsIff : ∀ value, clockOf? additions device = some value ↔ _ :=
    hcarries.raises.additions_iff device
  have hnone : ∀ {clock : Option Nat}, (∀ value, clock ≠ some value) → clock = none :=
    Option.eq_none_iff_forall_ne_some.mpr
  rw [(loadedClock?_updateVectorClocks_eq_iff hupdate resourceId device).mpr _,
    clockOf?_toldClocks, hupdates, hadditions]
  · cases hother : clockOf? other device with
    | none =>
        have hkept : clockOf? updates device = none := hnone fun value hvalue => by
          cases hother.symm.trans ((hupdatesIff value).mp hvalue).1
        have hlacks : clockOf? additions device = none := hnone fun value hvalue => by
          cases hother.symm.trans ((hadditionsIff value).mp hvalue).1
        rw [hkept, hlacks]
        cases Persistance.loadedClock? ctx resourceId device <;> rfl
    | some value =>
        cases htable : clockOf? table device with
        | none =>
            have hset := (hadditionsIff value).mpr ⟨hother, htable⟩
            obtain ⟨change, hchange, rfl, rfl⟩ := KeyedMaximum.mem_of_valueAt? _ _ hset
            have hfree := loadedClock?_of_added hupdate hchange
            rw [hadded change hchange] at hfree
            rw [hfree, hset]
            rfl
        | some low =>
            obtain ⟨held, hheld, hlow⟩ := hcarries.behind device low htable
            have hloaded : Persistance.loadedClock? ctx resourceId device = some held := hheld
            have hlacks : clockOf? additions device = none := hnone fun new hnew => by
              cases htable.symm.trans ((hadditionsIff new).mp hnew).2
            rw [hloaded, hlacks]
            by_cases hlt : low < value
            · have hset := (hupdatesIff value).mpr ⟨hother, low, htable, hlt⟩
              obtain ⟨change, hchange, rfl, rfl⟩ := KeyedMaximum.mem_of_valueAt? _ _ hset
              have hle := hahead change hchange
              rw [hupdated change hchange, hloaded] at hle
              rw [hset]
              simp [hle held rfl]
            · have hkept : clockOf? updates device = none := hnone fun new hnew => by
                obtain ⟨hnew, found, hfound, hfoundLt⟩ := (hupdatesIff new).mp hnew
                cases htable.symm.trans hfound
                cases hother.symm.trans hnew
                exact hlt hfoundLt
              rw [hkept]
              exact congrArg some (max_eq_left ((not_lt.mp hlt).trans hlow)).symm
  · intro value hvalue
    have hcount := hfits device
    rw [setValue?, hupdates, hadditions] at hvalue
    have hset : clockOf? other device = some value := by
      split at hvalue
      · exact ((hupdatesIff value).mp hvalue).1
      · exact ((hadditionsIff value).mp hvalue).1
    rw [countOf, hset] at hcount
    exact .inl hcount

end Delayed

namespace ClockNetwork

variable {resourceId : String} {network : ClockNetwork} {gossip : Gossip String (String × Nat)}

/-- A comparison whose first half is written at once is `mergeVectorClocks`, and its
second half is the answer. -/
theorem compare_eq_mergeVectorClocks (deviceId : String) (offer : ClockOffer) :
    ∃ result : MergeResult,
      (network.compare resourceId deviceId offer).writes = network.writes ++
        [⟨deviceId, result.updateLocal, result.addLocal⟩,
          ⟨offer.sender, result.updateRemote, result.addRemote⟩] ∧
      (mergeVectorClocks resourceId offer.clocks).run (network.stores deviceId) =
        match VectorClockRepo.updateVectorClocks result.updateLocal result.addLocal
          (network.stores deviceId) with
        | .ok after => (.ok (result.addRemote, result.updateRemote), after)
        | .error error => (.error (.repository error), network.stores deviceId) := by
  have hread : (query (VectorClockRepo.getVectorClocksForResource resourceId)).run
      (network.stores deviceId) =
        (.ok (network.clocksAt resourceId deviceId), network.stores deviceId) := rfl
  have hneeds := merge_localNeedsUpdate_iff (network.clocksAt resourceId deviceId) offer.clocks
  unfold compare mergeVectorClocks
  rw [Program.run_bind, hread, Program.andThen_ok]
  generalize merge (network.clocksAt resourceId deviceId) offer.clocks = result at hneeds ⊢
  refine ⟨result, rfl, ?_⟩
  cases hflag : result.localNeedsUpdate with
  | false =>
      rw [hflag] at hneeds
      obtain ⟨hupdates, hadditions⟩ := not_not.mp (mt hneeds.mpr Bool.false_ne_true)
      simp only [hflag, hupdates, hadditions]
      rfl
  | true =>
      simp only [hflag, update, if_true, Program.run_bind, Program.run_write]
      cases VectorClockRepo.updateVectorClocks result.updateLocal result.addLocal
        (network.stores deviceId) <;> rfl

/-- What is under way carries what has been told, to stores that have not gone back. -/
structure InFlight (resourceId : String) (stores : String → RepositoryContext)
    (told : Set (Set (String × Nat))) (network : ClockNetwork) : Prop where
  offers : ∀ offer ∈ network.offers, counted (countOf offer.clocks) ∈ told ∧
    DistinctDevices offer.clocks ∧ (∀ clock ∈ offer.clocks, clock.resourceId = resourceId) ∧
    KeyedMaximum.Dominates deviceId clockValue
      (ResourceRepo.clocksOf (stores offer.sender) resourceId) offer.clocks
  writes : ∀ write ∈ network.writes, ∃ table other,
    Carries resourceId told (stores write.holder) write.updateClock write.addClock table other

theorem InFlight.mono {stores stores' : String → RepositoryContext}
    {told told' : Set (Set (String × Nat))}
    (hflight : InFlight resourceId stores told network) (htold : told ⊆ told')
    (hgrows : ∀ holder, Grows resourceId (stores holder) (stores' holder)) :
    InFlight resourceId stores' told' network where
  offers offer hoffer := by
    obtain ⟨hclocks, hdistinct, hresources, hbehind⟩ := hflight.offers offer hoffer
    exact ⟨htold hclocks, hdistinct, hresources, (hgrows _).trans hbehind⟩
  writes write hwrite := by
    obtain ⟨table, other, hcarries⟩ := hflight.writes write hwrite
    exact ⟨table, other, hcarries.mono htold (hgrows _)⟩

/-- Each store has heard of what its clocks count. -/
structure Reflects (resourceId : String) (network : ClockNetwork)
    (gossip : Gossip String (String × Nat)) : Prop where
  clocked : ∀ device, WellClocked (network.stores device)
  bounded : ∀ device, network.ownCounts resourceId device < 2 ^ 31
  made : gossip.made = counted (network.ownCounts resourceId)
  heard : ∀ device,
    gossip.heard device = counted (countOf (network.clocksAt resourceId device))
  sound : gossip.Sound
  inFlight : InFlight resourceId network.stores gossip.told network

theorem ownCounts_setStore (device : String) (ctx : RepositoryContext) :
    (network.setStore device ctx).ownCounts resourceId =
      Function.update (network.ownCounts resourceId) device
        (countOf (ResourceRepo.clocksOf ctx resourceId) device) := by
  funext holder
  by_cases hholder : holder = device
  · subst hholder
    simp [ownCounts, clocksAt, setStore]
  · simp [ownCounts, clocksAt, setStore, hholder]

theorem Reflects.setStore {device : String} {ctx : RepositoryContext}
    {next : Gossip String (String × Nat)} (hreflects : Reflects resourceId network gossip)
    (hclocked : WellClocked ctx) (hgrows : Grows resourceId (network.stores device) ctx)
    (hbounded : countOf (ResourceRepo.clocksOf ctx resourceId) device < 2 ^ 31)
    (hmade : next.made = counted (Function.update (network.ownCounts resourceId) device
      (countOf (ResourceRepo.clocksOf ctx resourceId) device)))
    (hheard : next.heard = Function.update gossip.heard device
      (counted (countOf (ResourceRepo.clocksOf ctx resourceId))))
    (htold : next.told = gossip.told) (hsound : next.Sound) :
    Reflects resourceId (network.setStore device ctx) next where
  clocked := Function.forall_update_iff network.stores (fun _ store => WellClocked store)
    |>.mpr ⟨hclocked, fun holder _ => hreflects.clocked holder⟩
  bounded := by
    rw [ownCounts_setStore]
    exact Function.forall_update_iff _ (fun _ count => count < 2 ^ 31)
      |>.mpr ⟨hbounded, fun holder _ => hreflects.bounded holder⟩
  made := by rw [hmade, ownCounts_setStore]
  heard := by
    refine Function.forall_update_iff network.stores (fun holder store => next.heard holder =
      counted (countOf (ResourceRepo.clocksOf store resourceId))) |>.mpr ⟨?_, ?_⟩
    · rw [hheard, Function.update_self]
    · intro holder hholder
      rw [hheard, Function.update_of_ne hholder]
      exact hreflects.heard holder
  sound := hsound
  inFlight := by
    have hstores : ∀ holder, Grows resourceId (network.stores holder)
        ((network.setStore device ctx).stores holder) :=
      Function.forall_update_iff network.stores
        (fun holder store => Grows resourceId (network.stores holder) store)
        |>.mpr ⟨hgrows, fun _ _ => .refl _⟩
    have hflight := hreflects.inFlight.mono subset_rfl hstores
    rw [htold]
    exact ⟨hflight.offers, hflight.writes⟩

theorem getD_max (left right : Option Nat) :
    (max left right).getD 0 = max (left.getD 0) (right.getD 0) := by
  cases left with
  | none => cases right <;> simp
  | some value => cases right <;> simp

/-- A store that writes what is under way to it hears what that carries. -/
theorem Reflects.write {device : String} {ctx : RepositoryContext}
    {updates additions table other : List ResourceVectorClock}
    (hreflects : Reflects resourceId network gossip)
    (hcarries : Carries resourceId gossip.told (network.stores device) updates additions
      table other)
    (hahead : Ahead (network.stores device) updates)
    (hupdate : VectorClockRepo.updateVectorClocks updates additions (network.stores device) =
      .ok ctx) :
    ∃ next, Gossip.Step gossip next ∧
      Reflects resourceId (network.setStore device ctx) next := by
  have hmade := hreflects.sound.told _ hcarries.told
  rw [hreflects.made] at hmade
  have hle := counted_subset_iff.mp hmade
  have hfits : ∀ site, countOf other site < 2 ^ 31 := fun site =>
    (hle site).trans_lt (hreflects.bounded site)
  have hloaded := hcarries.loadedClock? hfits hahead hupdate
  have hcount : countOf (ResourceRepo.clocksOf ctx resourceId) = fun site =>
      max (countOf (network.clocksAt resourceId device) site) (countOf other site) := by
    funext site
    simp only [countOf_clocksOf, hloaded, getD_max]
    rfl
  have hown : countOf (ResourceRepo.clocksOf ctx resourceId) device =
      network.ownCounts resourceId device := by
    rw [hcount]
    exact Nat.max_eq_left (hle device)
  have hstep := Gossip.Step.hear device hcarries.told
  refine ⟨_, hstep, hreflects.setStore ?_ ?_ ?_ ?_ ?_ rfl (hreflects.sound.step hstep)⟩
  · exact (hreflects.clocked device).updateVectorClocks hupdate
  · intro site value hvalue
    have hafter : clockOf? (ResourceRepo.clocksOf ctx resourceId) site = _ := hloaded site
    have hbefore : loadedClock? (network.stores device) resourceId site = some value := hvalue
    rw [hbefore] at hafter
    cases hother : clockOf? other site with
    | none => exact ⟨value, hafter.trans (by rw [hother]; rfl), le_rfl⟩
    | some told =>
        exact ⟨max value told, hafter.trans (by rw [hother]; rfl), le_max_left _ _⟩
  · rw [hown]
    exact hreflects.bounded device
  · rw [hown, Function.update_eq_self]
    exact hreflects.made
  · rw [hcount, ← counted_union, hreflects.heard]

theorem Reflects.edit {deviceId freshId : String} {now : Int} {ctx : RepositoryContext}
    (hreflects : Reflects resourceId network gossip)
    (hroom : network.ownCounts resourceId deviceId < 2 ^ 31 - 1)
    (hincrement : VectorClockRepo.incrementVectorClock freshId now resourceId deviceId
      (network.stores deviceId) = .ok ctx) :
    ∃ next, Gossip.Step gossip next ∧
      Reflects resourceId (network.setStore deviceId ctx) next := by
  have hclocked := hreflects.clocked deviceId
  have hloaded := loadedClock?_increment hclocked hroom hincrement
  have hcount : countOf (ResourceRepo.clocksOf ctx resourceId) =
      Function.update (countOf (network.clocksAt resourceId deviceId)) deviceId
        (network.ownCounts resourceId deviceId + 1) := by
    rw [countOf_clocksOf, hloaded]
    exact Function.comp_update (fun clock : Option Nat => clock.getD 0) _ _ _
  have hown : countOf (ResourceRepo.clocksOf ctx resourceId) deviceId =
      network.ownCounts resourceId deviceId + 1 := by
    rw [hcount, Function.update_self]
  have hnew : (deviceId, network.ownCounts resourceId deviceId) ∉ gossip.made := by
    rw [hreflects.made, mem_counted]
    exact Nat.lt_irrefl _
  have hstep := Gossip.Step.make deviceId hnew
  refine ⟨_, hstep, hreflects.setStore ?_ ?_ ?_ ?_ ?_ rfl (hreflects.sound.step hstep)⟩
  · exact hclocked.incrementVectorClock hincrement
  · intro device value hvalue
    have hafter : clockOf? (ResourceRepo.clocksOf ctx resourceId) device = _ :=
      congrFun hloaded device
    have hbefore : loadedClock? (network.stores deviceId) resourceId device = some value := hvalue
    by_cases hdevice : device = deviceId
    · subst hdevice
      rw [Function.update_self] at hafter
      refine ⟨_, hafter, ?_⟩
      rw [countOf_clocksOf]
      simp only [hbefore, Option.getD_some]
      omega
    · rw [Function.update_of_ne hdevice] at hafter
      exact ⟨value, hafter.trans hbefore, le_rfl⟩
  · rw [hown]
    omega
  · rw [hown, hreflects.made, insert_counted]
  · simp only [hcount, hreflects.heard]
    exact congrArg _ (@insert_counted _ (countOf (network.clocksAt resourceId deviceId)) _ deviceId)

theorem distinctDevices_clocksAt (hreflects : Reflects resourceId network gossip)
    (device : String) : DistinctDevices (network.clocksAt resourceId device) := by
  have hclocked := hreflects.clocked device
  constructor
  rw [clocksAt, ResourceRepo.clocksOf, List.map_map]
  apply List.Nodup.map_on
  · intro row hrow other hother hdevice
    rw [List.mem_filter, decide_eq_true_eq] at hrow hother
    exact hclocked.eq_of_key hrow.1 hother.1 (Prod.ext (hrow.2.trans hother.2.symm) hdevice)
  · exact (List.Nodup.of_map _ hclocked.ids).filter _

theorem resourceId_of_mem_clocksAt {device : String} {clock : ResourceVectorClock}
    (hclock : clock ∈ network.clocksAt resourceId device) : clock.resourceId = resourceId := by
  obtain ⟨row, hrow, rfl⟩ := List.mem_map.mp hclock
  exact of_decide_eq_true (List.mem_filter.mp hrow).2

theorem InFlight.tell (hreflects : Reflects resourceId network gossip) (device : String) :
    InFlight resourceId network.stores (insert (gossip.heard device) gossip.told) network :=
  hreflects.inFlight.mono (Set.subset_insert _ _) fun _ => .refl _

theorem Reflects.offer (hreflects : Reflects resourceId network gossip) (deviceId : String) :
    ∃ next, Gossip.Step gossip next ∧
      Reflects resourceId (step resourceId (.offer deviceId) network) next := by
  have hstep : Gossip.Step gossip _ := .tell deviceId
  have hflight := InFlight.tell hreflects deviceId
  refine ⟨_, hstep, hreflects.clocked, hreflects.bounded, hreflects.made, hreflects.heard,
    hreflects.sound.step hstep, List.forall_mem_append.mpr ⟨hflight.offers, ?_⟩, hflight.writes⟩
  exact List.forall_mem_singleton.mpr ⟨.inl (hreflects.heard deviceId).symm,
    distinctDevices_clocksAt hreflects deviceId, fun _ => resourceId_of_mem_clocksAt, .refl _⟩

theorem Reflects.compare (hreflects : Reflects resourceId network gossip) (deviceId : String)
    {offer : ClockOffer} (hoffer : offer ∈ network.offers) :
    ∃ next, Gossip.Step gossip next ∧
      Reflects resourceId (network.compare resourceId deviceId offer) next := by
  have hstep : Gossip.Step gossip _ := .tell deviceId
  have hflight := InFlight.tell hreflects deviceId
  have hheld := distinctDevices_clocksAt hreflects deviceId
  obtain ⟨htold, hdistinct, hresources, hbehind⟩ := hflight.offers offer hoffer
  refine ⟨_, hstep, hreflects.clocked, hreflects.bounded, hreflects.made, hreflects.heard,
    hreflects.sound.step hstep, hflight.offers, List.forall_mem_append.mpr ⟨hflight.writes, ?_⟩⟩
  refine List.forall_mem_cons.mpr ⟨?_, List.forall_mem_singleton.mpr ?_⟩
  · refine ⟨_, _, merge_raises_local _ hdistinct, htold, .refl _, ?_⟩
    rw [merge_eq]
    refine List.forall_mem_append.mpr ⟨fun change hchange => ?_, fun change hchange => ?_⟩
    · obtain ⟨entry, hentry, hraised⟩ := List.mem_filterMap.mp hchange
      obtain ⟨rfl, -⟩ := raisedBy?_eq_some_iff.mp hraised
      exact hresources _ hentry
    · exact hresources _ (List.mem_filter.mp hchange).1
  · refine ⟨_, _, merge_raises_remote hheld hdistinct, .inl (hreflects.heard deviceId).symm,
      hbehind, ?_⟩
    rw [merge_eq]
    refine List.forall_mem_append.mpr ⟨fun change hchange => ?_, fun change hchange => ?_⟩
    · obtain ⟨entry, -, hraiser⟩ := List.mem_filterMap.mp hchange
      exact resourceId_of_mem_clocksAt
        (deviceId_of_heldFor? (raiserOf?_eq_some_iff.mp hraiser).1).1
    · exact resourceId_of_mem_clocksAt (List.mem_filter.mp hchange).1

/-- Each event is matched by what the devices make, tell and hear. -/
theorem Reflects.step (hreflects : Reflects resourceId network gossip) {event : ClockEvent}
    (hadmissible : Admissible resourceId event network) :
    ∃ next, Gossip.Reaches gossip next ∧
      Reflects resourceId (step resourceId event network) next := by
  have hsingle : ∀ {after}, (∃ next, Gossip.Step gossip next ∧ Reflects resourceId after next) →
      ∃ next, Gossip.Reaches gossip next ∧ Reflects resourceId after next :=
    fun ⟨next, hstep, hnext⟩ => ⟨next, .single hstep, hnext⟩
  cases event with
  | edit deviceId freshId now =>
      simp only [ClockNetwork.step, attempt]
      split
      · next hincrement => exact hsingle (hreflects.edit hadmissible hincrement)
      · exact ⟨gossip, .refl, hreflects⟩
  | offer deviceId => exact hsingle (hreflects.offer deviceId)
  | compare deviceId index =>
      simp only [ClockNetwork.step]
      split
      · next hfound => exact hsingle (hreflects.compare deviceId (List.mem_of_getElem? hfound))
      · exact ⟨gossip, .refl, hreflects⟩
  | write index =>
      simp only [ClockNetwork.step, attempt]
      split
      · next hfound =>
          obtain ⟨table, other, hcarries⟩ :=
            hreflects.inFlight.writes _ (List.mem_of_getElem? hfound)
          split
          · next hupdate =>
              exact hsingle (hreflects.write hcarries (hadmissible _ hfound) hupdate)
          · exact ⟨gossip, .refl, hreflects⟩
      · exact ⟨gossip, .refl, hreflects⟩
  | other deviceId ctx =>
      obtain ⟨hclocked, hgrows, hcounts⟩ := hadmissible
      refine ⟨gossip, .refl, hreflects.setStore hclocked hgrows ?_ ?_ ?_ rfl hreflects.sound⟩
      · rw [hcounts]
        exact hreflects.bounded deviceId
      · rw [hcounts, hreflects.made]
        exact congrArg counted (Function.update_eq_self deviceId _).symm
      · rw [hcounts]
        exact (Function.update_eq_self_iff.mpr (hreflects.heard deviceId).symm).symm

theorem Started.reflects (hstarted : Started resourceId network) :
    Reflects resourceId network (knowledge resourceId network) where
  clocked := hstarted.clocked
  bounded := hstarted.bounded
  made := rfl
  heard _ := rfl
  sound := ⟨fun holder => counted_subset_iff.mpr (hstarted.known holder),
    fun _ hnews => absurd hnews (Set.notMem_empty _)⟩
  inFlight := ⟨by simp [hstarted.quiet.1], by simp [hstarted.quiet.2]⟩

/-- Clocks that are compared, sent as differences and written late stand for all that the
devices have told each other: every run is one of devices that tell all they know, in
which each has heard of the edits that its clocks count, and no two that the manifest
comparison finds up to date have heard of different ones. -/
theorem clocks_refine_gossip (resourceId : String) (start : ClockNetwork)
    (events : List ClockEvent) (hstart : Started resourceId start)
    (hevents : ∀ earlier event, earlier ++ [event] <+: events →
      Admissible resourceId event (run (step resourceId) start earlier)) :
    let network := run (step resourceId) start events
    ∃ gossip, Gossip.Reaches (knowledge resourceId start) gossip ∧
      gossip.made = counted (network.ownCounts resourceId) ∧
      (∀ device, gossip.heard device =
        counted (countOf (network.clocksAt resourceId device))) ∧
      ∀ device other,
        vectorClocksNeedUpdate (network.clocksAt resourceId device)
            (network.clocksAt resourceId other) = false →
          gossip.heard device = gossip.heard other := by
  have hrun := @run_invariant _ _ (step resourceId) start events
    (fun _ network => ∃ gossip, Gossip.Reaches (knowledge resourceId start) gossip ∧
      Reflects resourceId network gossip) ⟨_, .refl, hstart.reflects⟩ ?_ events List.prefix_rfl
  · obtain ⟨gossip, hreaches, hreflects⟩ := hrun
    refine ⟨gossip, hreaches, hreflects.made, hreflects.heard, ?_⟩
    intro device other hcurrent
    have hdistinct := distinctDevices_clocksAt hreflects device
    have hsame := mt (vectorClocksNeedUpdate_iff hdistinct).mpr (by simpa using hcurrent)
    rw [hreflects.heard, hreflects.heard]
    congr 1
    funext site
    exact congrArg (Option.getD · 0) (not_not.mp fun hne => hsame ⟨site, hne⟩)
  · rintro earlier event hevent ⟨gossip, hreaches, hreflects⟩
    obtain ⟨next, hnext, hreflects⟩ := hreflects.step (hevents earlier event hevent)
    exact ⟨next, hreaches.trans hnext, hreflects⟩

def sharedNote : RepositoryContext :=
  { resources := [.new "a" 0 .notes (.other "text") "folder" "" "R"]
    devices := ["laptop", "phone"].map fun id =>
      { id, deviceKey := "", userId := "R", createdAt := 0, updatedAt := 0, lastSyncedAt := none } }

def bothEdit : List ClockEvent :=
  [.edit "laptop" "x" 1, .edit "phone" "y" 2, .offer "laptop", .compare "phone" 0,
    .edit "laptop" "z" 3, .write 0, .write 1]

theorem bothEdit_admissible : EachEvent (fun earlier event =>
    Admissible "a" event (run (step "a") { stores := fun _ => sharedNote } earlier)) []
      bothEdit := by
  refine ⟨?_, ?_, trivial, trivial, ?_, ?_, ?_, trivial⟩ <;> unfold Admissible <;> decide +kernel

/-- The laptop, which has gone on editing, hears of the phone's edit. -/
theorem clocks_refine_gossip_bothEdit :
    ∃ gossip, Gossip.Reaches (knowledge "a" { stores := fun _ => sharedNote }) gossip ∧
      ("phone", 0) ∈ gossip.heard "laptop" := by
  have hstart : Started "a" { stores := fun _ => sharedNote } :=
    ⟨fun _ => ⟨List.nodup_nil, List.nodup_nil⟩, fun _ _ => Nat.le_refl 0,
      fun _ => Nat.two_pow_pos 31, rfl, rfl⟩
  obtain ⟨gossip, hreaches, -, hheard, -⟩ :=
    clocks_refine_gossip "a" _ bothEdit hstart
      fun earlier event hearlier => bothEdit_admissible.of_prefix hearlier
  refine ⟨gossip, hreaches, ?_⟩
  rw [hheard, mem_counted]
  decide +kernel

end ClockNetwork

end Osvauld.Services
