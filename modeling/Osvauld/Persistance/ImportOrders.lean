import Osvauld.Persistance.KeyedTables

namespace Osvauld.Persistance

open Osvauld.Core Data Data.KeyedInserts

/-! Imports of one resource from several peers. -/

def importAll (order : List ResourceSyncData) (ctx : RepositoryContext) :
    Except RepositoryError RepositoryContext :=
  order.foldlM (fun ctx payload => ResourceRepo.saveResourceSyncData payload ctx) ctx

structure Constrained (ctx : RepositoryContext) : Prop where
  resources : WellKeyed Resource.id Resource.id ctx.resources
  keys : WellKeyed ResourceKey.id keyPair ctx.resourceKeys
  shares : WellKeyed ShareRecord.id ShareRecord.id ctx.shareRecords
  clocks : WellKeyed ResourceVectorClockModel.id clockPair ctx.vectorClocks

/-- The resource is held once, and so is the key of each user and the clock of
each device that the payloads name. -/
structure HeldOnce (order : List ResourceSyncData) (ctx : RepositoryContext) :
    Prop where
  resource : ∀ payload ∈ order,
    (ctx.resources.map Resource.id).count payload.resource.id = 1
  keys : ∀ payload ∈ order, ∀ key ∈ payload.resourceKeys,
    (ctx.resourceKeys.map keyPair).count (keyPair key) = 1
  clocks : ∀ payload ∈ order, ∀ clock ∈ clockRows payload,
    (ctx.vectorClocks.map clockPair).count (clockPair clock) = 1

def keyContent (key : ResourceKey) : ResourceKey := { key with id := "" }

def clockContent (clock : ResourceVectorClockModel) : ResourceVectorClockModel :=
  { clock with id := "" }

theorem keyPair_eq_of_content {key key' : ResourceKey}
    (hcontent : keyContent key = keyContent key') : keyPair key = keyPair key' := by
  have hpair := congrArg keyPair hcontent
  exact hpair

theorem clockPair_eq_of_content {clock clock' : ResourceVectorClockModel}
    (hcontent : clockContent clock = clockContent clock') :
    clockPair clock = clockPair clock' := by
  have hpair := congrArg clockPair hcontent
  exact hpair

/-- What the first store holds of resources, keys and clocks the second holds as
well, up to the ids of keys and clocks. -/
structure HeldAlike (ctx ctx' : RepositoryContext) : Prop where
  resources : ctx.resources ⊆ ctx'.resources
  keys : ctx.resourceKeys.map keyContent ⊆ ctx'.resourceKeys.map keyContent
  clocks : ctx.vectorClocks.map clockContent ⊆ ctx'.vectorClocks.map clockContent

/-- Imports of any of the payloads, in any order and any number of times,
succeed, and the store they lead to does not depend on the order. -/
structure ImportsConverge (payloads : List ResourceSyncData)
    (ctx : RepositoryContext) : Prop where
  succeed : ∀ order, order ⊆ payloads → ∃ after, importAll order ctx = .ok after
  once : ∀ order, order ⊆ payloads → ∀ after, importAll order ctx = .ok after →
    HeldOnce order after
  alike : ∀ order order', order ⊆ payloads → order' ⊆ payloads →
    (∀ payload, payload ∈ order ↔ payload ∈ order') →
      ∀ after after', importAll order ctx = .ok after →
        importAll order' ctx = .ok after' → HeldAlike after after'

/-- In the store and among the payloads, the keys of one user have one id and agree
in what they hold, and so do the clocks of one device and the resources; new rows
refer to users, devices and folders that are there. -/
structure PayloadsCompatible (payloads : List ResourceSyncData)
    (ctx : RepositoryContext) : Prop where
  resources : Compatible Resource.id Resource.id (fun resource => resource)
    (AdmitsResource ctx) (fun payload => [payload.resource]) ctx.resources payloads
  keys : Compatible ResourceKey.id keyPair keyContent (AdmitsKey ctx)
    ResourceSyncData.resourceKeys ctx.resourceKeys payloads
  shares : ∀ payload ∈ payloads, Accepts ShareRecord.id ShareRecord.id
    (AdmitsShare ctx) ctx.shareRecords payload.shareRecords
  clocks : Compatible ResourceVectorClockModel.id clockPair clockContent
    (AdmitsClock ctx) clockRows ctx.vectorClocks payloads

abbrev importedAll (order : List ResourceSyncData) (ctx : RepositoryContext) :
    RepositoryContext :=
  run imported ctx order

section Tables

variable {order : List ResourceSyncData} {ctx : RepositoryContext}

theorem importedAll_resources : (importedAll order ctx).resources =
    extendAll Resource.id (fun payload => [payload.resource]) ctx.resources order :=
  run_project fun _ _ => rfl

theorem importedAll_resourceKeys : (importedAll order ctx).resourceKeys =
    extendAll ResourceKey.id ResourceSyncData.resourceKeys ctx.resourceKeys order :=
  run_project fun _ _ => rfl

theorem importedAll_shareRecords : (importedAll order ctx).shareRecords =
    extendAll ShareRecord.id ResourceSyncData.shareRecords ctx.shareRecords order :=
  run_project fun _ _ => rfl

theorem importedAll_vectorClocks : (importedAll order ctx).vectorClocks =
    extendAll ResourceVectorClockModel.id clockRows ctx.vectorClocks order :=
  run_project fun _ _ => rfl

theorem importedAll_apart {α : Type} {project : RepositoryContext → α}
    (hproject : ∀ payload ctx, project (imported payload ctx) = project ctx) :
    project (importedAll order ctx) = project ctx := by
  induction order using List.reverseRecOn with
  | nil => rfl
  | append_singleton earlier payload ih => rw [importedAll, run_concat, hproject, ih]

theorem importable_importedAll_iff {payload : ResourceSyncData} :
    Importable payload (importedAll order ctx) ↔
      Accepts Resource.id Resource.id (AdmitsResource ctx)
          (extendAll Resource.id (fun payload => [payload.resource]) ctx.resources order)
          [payload.resource] ∧
        Accepts ResourceKey.id keyPair (AdmitsKey ctx)
          (extendAll ResourceKey.id ResourceSyncData.resourceKeys ctx.resourceKeys order)
          payload.resourceKeys ∧
        Accepts ShareRecord.id ShareRecord.id (AdmitsShare ctx)
          (extendAll ShareRecord.id ResourceSyncData.shareRecords ctx.shareRecords order)
          payload.shareRecords ∧
        Accepts ResourceVectorClockModel.id clockPair (AdmitsClock ctx)
          (extendAll ResourceVectorClockModel.id clockRows ctx.vectorClocks order)
          (clockRows payload) := by
  have hresource : AdmitsResource (importedAll order ctx) = AdmitsResource ctx :=
    importedAll_apart fun _ _ => rfl
  have hkey : AdmitsKey (importedAll order ctx) = AdmitsKey ctx :=
    importedAll_apart fun _ _ => rfl
  have hshare : AdmitsShare (importedAll order ctx) = AdmitsShare ctx :=
    importedAll_apart fun _ _ => rfl
  have hclock : AdmitsClock (importedAll order ctx) = AdmitsClock ctx :=
    importedAll_apart fun _ _ => rfl
  rw [← hresource, ← hkey, ← hshare, ← hclock, ← importedAll_resources,
    ← importedAll_resourceKeys, ← importedAll_shareRecords, ← importedAll_vectorClocks]
  constructor
  · rintro ⟨hresources, hkeys, hshares, hclocks⟩
    exact ⟨hresources, hkeys, hshares, hclocks⟩
  · rintro ⟨hresources, hkeys, hshares, hclocks⟩
    exact ⟨hresources, hkeys, hshares, hclocks⟩

theorem importAll_eq_ok_iff {resourceId : String} {after : RepositoryContext}
    (hdescribes : ∀ payload ∈ order, Describes resourceId payload) :
    importAll order ctx = .ok after ↔
      (∀ earlier payload, earlier ++ [payload] <+: order →
          Importable payload (importedAll earlier ctx)) ∧
        after = importedAll order ctx :=
  foldlM_eq_ok_iff_run fun payload hpayload _ _ =>
    saveResourceSyncData_eq_ok_iff (hdescribes payload hpayload)

end Tables

section Convergence

variable {resourceId : String} {payloads : List ResourceSyncData}
variable {ctx : RepositoryContext}
variable (hdescribes : ∀ payload ∈ payloads, Describes resourceId payload)

include hdescribes

variable {order : List ResourceSyncData}

theorem ImportsConverge.importable (hconverge : ImportsConverge payloads ctx)
    (horder : order ⊆ payloads) {earlier : List ResourceSyncData} {payload : ResourceSyncData}
    (hearlier : earlier ++ [payload] <+: order) : Importable payload (importedAll earlier ctx) := by
  obtain ⟨after, hafter⟩ := hconverge.succeed order horder
  rw [importAll_eq_ok_iff fun payload hpayload =>
    hdescribes payload (horder hpayload)] at hafter
  exact hafter.1 earlier payload hearlier

theorem ImportsConverge.importAll_eq (hconverge : ImportsConverge payloads ctx)
    (horder : order ⊆ payloads) : importAll order ctx = .ok (importedAll order ctx) := by
  rw [importAll_eq_ok_iff fun payload hpayload => hdescribes payload (horder hpayload)]
  exact ⟨fun _ _ hearlier => hconverge.importable hdescribes horder hearlier, rfl⟩

theorem ImportsConverge.compatible (hctx : Constrained ctx)
    (hconverge : ImportsConverge payloads ctx) : PayloadsCompatible payloads ctx := by
  have haccepts {order earlier payload} (horder : order ⊆ payloads)
      (hearlier : earlier ++ [payload] <+: order) :=
    importable_importedAll_iff.mp (hconverge.importable hdescribes horder hearlier)
  have honce {order} (horder : order ⊆ payloads) :=
    hconverge.once order horder _ (hconverge.importAll_eq hdescribes horder)
  have halike {order order'} (horder : order ⊆ payloads) (horder' : order' ⊆ payloads)
      (hsame : ∀ payload, payload ∈ order ↔ payload ∈ order') :=
    hconverge.alike order order' horder horder' hsame _ _
      (hconverge.importAll_eq hdescribes horder)
      (hconverge.importAll_eq hdescribes horder')
  constructor
  · refine (orderIndependent_iff hctx.resources fun _ _ => wellKeyed_singleton _).mp
      ⟨fun order horder earlier payload hearlier => (haccepts horder hearlier).1, ?_, ?_⟩
    · intro order horder payload hpayload resource hresource
      rw [← importedAll_resources, List.mem_singleton.mp hresource,
        ← List.one_le_count_iff]
      exact ((honce horder).resource payload hpayload).ge
    · intro order order' horder horder' hsame resource hresource
      rw [← importedAll_resources] at hresource ⊢
      exact ⟨resource, (halike horder horder' hsame).resources hresource, rfl, rfl⟩
  · refine (orderIndependent_iff hctx.keys fun payload hpayload =>
      (hdescribes payload hpayload).keys).mp
        ⟨fun order horder earlier payload hearlier => (haccepts horder hearlier).2.1, ?_, ?_⟩
    · intro order horder payload hpayload key hkey
      rw [← importedAll_resourceKeys, ← List.one_le_count_iff]
      exact ((honce horder).keys payload hpayload key hkey).ge
    · intro order order' horder horder' hsame key hkey
      rw [← importedAll_resourceKeys] at hkey ⊢
      obtain ⟨key', hkey', hcontent⟩ := List.mem_map.mp
        ((halike horder horder' hsame).keys (List.mem_map_of_mem hkey))
      exact ⟨key', hkey', keyPair_eq_of_content hcontent, hcontent⟩
  · intro payload hpayload
    have horder : [payload] ⊆ payloads := by simpa using hpayload
    exact (@haccepts [payload] [] payload horder List.prefix_rfl).2.2.1
  · refine (orderIndependent_iff hctx.clocks fun payload hpayload =>
      (hdescribes payload hpayload).clocks).mp
        ⟨fun order horder earlier payload hearlier => (haccepts horder hearlier).2.2.2, ?_, ?_⟩
    · intro order horder payload hpayload clock hclock
      rw [← importedAll_vectorClocks, ← List.one_le_count_iff]
      exact ((honce horder).clocks payload hpayload clock hclock).ge
    · intro order order' horder horder' hsame clock hclock
      rw [← importedAll_vectorClocks] at hclock ⊢
      obtain ⟨clock', hclock', hcontent⟩ := List.mem_map.mp
        ((halike horder horder' hsame).clocks (List.mem_map_of_mem hclock))
      exact ⟨clock', hclock', clockPair_eq_of_content hcontent, hcontent⟩

section

variable (hctx : Constrained ctx) (hcompatible : PayloadsCompatible payloads ctx)

include hctx hcompatible

theorem PayloadsCompatible.importAll_eq (horder : order ⊆ payloads) :
    importAll order ctx = .ok (importedAll order ctx) := by
  rw [importAll_eq_ok_iff fun payload hpayload => hdescribes payload (horder hpayload)]
  refine ⟨fun earlier payload hearlier => importable_importedAll_iff.mpr ?_, rfl⟩
  have hpayload : payload ∈ payloads := horder (hearlier.subset (by simp))
  refine ⟨?_, ?_, ?_, ?_⟩
  · exact (hcompatible.resources.orderIndependent hctx.resources
      fun _ _ => wellKeyed_singleton _).accepts order horder earlier payload hearlier
  · exact (hcompatible.keys.orderIndependent hctx.keys fun payload hpayload =>
      (hdescribes payload hpayload).keys).accepts order horder earlier payload hearlier
  · refine accepts_id_iff.mpr fun record hrecord hfree => ?_
    refine accepts_id_iff.mp (hcompatible.shares payload hpayload) record hrecord ?_
    exact fun hheld => hfree (mem_ids_extendAll hheld)
  · exact (hcompatible.clocks.orderIndependent hctx.clocks fun payload hpayload =>
      (hdescribes payload hpayload).clocks).accepts order horder earlier payload hearlier

theorem PayloadsCompatible.heldOnce (horder : order ⊆ payloads) :
    HeldOnce order (importedAll order ctx) := by
  constructor
  · intro payload hpayload
    rw [importedAll_resources]
    refine List.count_eq_one_of_mem (hcompatible.resources.extended hctx.resources
      (fun _ _ => wellKeyed_singleton _) horder order List.prefix_rfl).wellKeyed.keys ?_
    exact (hcompatible.resources.orderIndependent hctx.resources
      fun _ _ => wellKeyed_singleton _).held order horder payload hpayload
        payload.resource (List.mem_singleton_self _)
  · intro payload hpayload
    rw [importedAll_resourceKeys]
    refine fun key hkey => List.count_eq_one_of_mem (hcompatible.keys.extended hctx.keys
      (fun payload hpayload => (hdescribes payload hpayload).keys) horder order
        List.prefix_rfl).wellKeyed.keys ?_
    exact (hcompatible.keys.orderIndependent hctx.keys fun payload hpayload =>
      (hdescribes payload hpayload).keys).held order horder payload hpayload key hkey
  · intro payload hpayload
    rw [importedAll_vectorClocks]
    refine fun clock hclock => List.count_eq_one_of_mem
      (hcompatible.clocks.extended hctx.clocks (fun payload hpayload =>
        (hdescribes payload hpayload).clocks) horder order List.prefix_rfl).wellKeyed.keys ?_
    exact (hcompatible.clocks.orderIndependent hctx.clocks fun payload hpayload =>
      (hdescribes payload hpayload).clocks).held order horder payload hpayload clock hclock

theorem PayloadsCompatible.heldAlike {order' : List ResourceSyncData} (horder : order ⊆ payloads)
    (horder' : order' ⊆ payloads) (hsame : ∀ payload, payload ∈ order ↔ payload ∈ order') :
    HeldAlike (importedAll order ctx) (importedAll order' ctx) := by
  constructor
  · rw [importedAll_resources, importedAll_resources]
    intro resource hresource
    obtain ⟨found, hfound, _, rfl⟩ := (hcompatible.resources.orderIndependent
      hctx.resources fun _ _ => wellKeyed_singleton _).same order order' horder horder'
        hsame resource hresource
    exact hfound
  · rw [importedAll_resourceKeys, importedAll_resourceKeys]
    intro content hcontent
    obtain ⟨key, hkey, rfl⟩ := List.mem_map.mp hcontent
    obtain ⟨found, hfound, _, heq⟩ := (hcompatible.keys.orderIndependent hctx.keys
      fun payload hpayload => (hdescribes payload hpayload).keys).same order order'
        horder horder' hsame key hkey
    exact heq ▸ List.mem_map_of_mem hfound
  · rw [importedAll_vectorClocks, importedAll_vectorClocks]
    intro content hcontent
    obtain ⟨clock, hclock, rfl⟩ := List.mem_map.mp hcontent
    obtain ⟨found, hfound, _, heq⟩ := (hcompatible.clocks.orderIndependent hctx.clocks
      fun payload hpayload => (hdescribes payload hpayload).clocks).same order order'
        horder horder' hsame clock hclock
    exact heq ▸ List.mem_map_of_mem hfound

theorem PayloadsCompatible.converge : ImportsConverge payloads ctx := by
  have himport {order} (horder : order ⊆ payloads) :=
    hcompatible.importAll_eq hdescribes hctx horder
  constructor
  · exact fun order horder => ⟨_, himport horder⟩
  · intro order horder after hafter
    rw [himport horder] at hafter
    cases hafter
    exact hcompatible.heldOnce hdescribes hctx horder
  · intro order order' horder horder' hsame after after' hafter hafter'
    rw [himport horder] at hafter
    rw [himport horder'] at hafter'
    cases hafter
    cases hafter'
    exact hcompatible.heldAlike hdescribes hctx horder horder' hsame

end

/-- Imports of one resource do not depend on their order and do not fail exactly
when their rows are compatible. -/
theorem importsConverge_iff (hctx : Constrained ctx) :
    ImportsConverge payloads ctx ↔ PayloadsCompatible payloads ctx :=
  ⟨fun hconverge => hconverge.compatible hdescribes hctx,
    fun hcompatible => hcompatible.converge hdescribes hctx⟩

end Convergence

namespace SharedNote

def note : Resource :=
  Resource.new "note" 0 .notes (.other "") "folder" "" "alice"

def key (id userId : String) : ResourceKey :=
  ResourceKey.new id 0 "note" userId (.other "") false

def clock (id deviceId : String) : ResourceVectorClock :=
  { id, resourceId := "note", deviceId, clockValue := 0, createdAt := 0, updatedAt := 0 }

def store : RepositoryContext :=
  { users := [User.sample "alice", User.sample "bob"]
    devices := [Device.sample "phone" "alice", Device.sample "laptop" "alice"]
    folders := [Folder.sample "folder"] }

def fromPhone : ResourceSyncData :=
  { resource := note, resourceKeys := [key "key" "alice"], shareRecords := []
    vectorClocks := [clock "phone clock" "phone"] }

def fromLaptop : ResourceSyncData :=
  { resource := note
    resourceKeys := [key "key" "alice", key "key of bob" "bob"]
    shareRecords := []
    vectorClocks := [clock "phone clock" "phone", clock "laptop clock" "laptop"] }

def fromElsewhere : ResourceSyncData :=
  { fromPhone with resourceKeys := [key "other key of bob" "bob"] }

theorem describes : ∀ payload ∈ [fromPhone, fromLaptop, fromElsewhere],
    Describes "note" payload := by
  intro payload hpayload
  simp only [List.mem_cons, List.not_mem_nil, or_false] at hpayload
  rcases hpayload with rfl | rfl | rfl
  all_goals
    exact ⟨rfl, ⟨by decide, by decide⟩, by decide, ⟨by decide, by decide⟩, by decide,
      ⟨by decide, by decide⟩, by decide⟩

theorem constrained : Constrained store :=
  ⟨⟨by decide, by decide⟩, ⟨by decide, by decide⟩, ⟨by decide, by decide⟩,
    ⟨by decide, by decide⟩⟩

end SharedNote

open SharedNote in
theorem importsConverge_phone_laptop : ImportsConverge [fromPhone, fromLaptop] store := by
  refine (importsConverge_iff (fun payload hpayload => describes payload ?_)
    constrained).mpr ⟨⟨?_, ?_⟩, ⟨?_, ?_⟩, ?_, ⟨?_, ?_⟩⟩
  · exact List.mem_append_left [fromElsewhere] hpayload
  · simp [Fits, AdmitsResource, store, folderExists, userExists, fromPhone, fromLaptop,
      note, Resource.new, Folder.sample, User.sample]
  · simp [Agree, store, fromPhone, fromLaptop]
  · simp [Fits, AdmitsKey, store, userExists, fromPhone, fromLaptop, key, keyPair,
      ResourceKey.new, User.sample]
  · simp [Agree, store, fromPhone, fromLaptop, key, keyPair, keyContent, ResourceKey.new]
  · simp [Accepts, fromPhone, fromLaptop]
  · simp [Fits, AdmitsClock, store, deviceExists, fromPhone, fromLaptop, clockRows,
      clock, clockPair, ResourceVectorClockModel.ofDomain, Device.sample]
  · simp [Agree, store, fromPhone, fromLaptop, clockRows, clock, clockPair, clockContent,
      ResourceVectorClockModel.ofDomain]

open SharedNote in
theorem not_importsConverge_laptop_elsewhere :
    ¬ ImportsConverge [fromLaptop, fromElsewhere] store := by
  intro hconverge
  obtain ⟨after, hafter⟩ := hconverge.succeed _ (List.Subset.refl _)
  cases hafter

end Osvauld.Persistance
