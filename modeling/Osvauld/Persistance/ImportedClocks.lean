import Osvauld.Persistance.KeyedTables

namespace Osvauld.Persistance

open Osvauld.Core Data Data.KeyedInserts

/-! Imported clocks count edits. How many edits of a device a document contains is
left open: nothing below depends on how they are told apart. -/

section Honesty

variable (edits : AesText → String → Nat)

def HonestClocks (resourceId : String) (ctx : RepositoryContext) : Prop :=
  ∀ clock ∈ ctx.vectorClocks, clock.resourceId = resourceId →
    ∃ resource, ResourceRepo.resource? ctx resourceId = some resource ∧
      clock.toDomain.clockValue ≤ edits resource.data clock.deviceId

def Consistent (payload : ResourceSyncData) : Prop :=
  ∀ clock ∈ payload.vectorClocks,
    clock.clockValue ≤ edits payload.resource.data clock.deviceId

/-- The column is wide enough for the clocks, and where the document is kept as it
is, the clocks that are new count edits of that document only. -/
structure Covered (payload : ResourceSyncData) (ctx : RepositoryContext) : Prop where
  fits : ∀ clock ∈ payload.vectorClocks, clock.clockValue < 2 ^ 31
  kept : ∀ resource, ResourceRepo.resource? ctx payload.resource.id = some resource →
    ∀ clock ∈ payload.vectorClocks,
      clock.id ∉ ctx.vectorClocks.map ResourceVectorClockModel.id →
        clock.clockValue ≤ edits resource.data clock.deviceId

def receive (payload : ResourceSyncData) (ctx : RepositoryContext) :
    RepositoryContext :=
  match ResourceRepo.saveResourceSyncData payload ctx with
  | .ok after => after
  | .error _ => ctx

variable {edits} {payload : ResourceSyncData} {ctx : RepositoryContext}

theorem resource?_imported_of_stored {resource : Resource}
    (hstored : ResourceRepo.resource? ctx payload.resource.id = some resource) :
    ResourceRepo.resource? (imported payload ctx) payload.resource.id =
      some resource := by
  unfold ResourceRepo.resource? imported extend at *
  rw [List.find?_append, hstored, Option.some_or]

theorem resource?_imported_of_missing
    (hmissing : ResourceRepo.resource? ctx payload.resource.id = none) :
    ResourceRepo.resource? (imported payload ctx) payload.resource.id =
      some payload.resource := by
  have hfree : payload.resource.id ∉ ctx.resources.map Resource.id := by
    simpa [ResourceRepo.resource?] using hmissing
  unfold ResourceRepo.resource? imported at *
  rw [extend_singleton_of_free hfree, List.find?_append, hmissing]
  simp

theorem toDomain_ofDomain {clock : ResourceVectorClock}
    (hfits : clock.clockValue < 2 ^ 31) :
    (ResourceVectorClockModel.ofDomain clock).toDomain = clock := by
  have hvalue : asU64 (asI32 clock.clockValue) = clock.clockValue := by
    unfold asU64 asI32
    rw [Int.bmod_def]
    omega
  unfold ResourceVectorClockModel.toDomain ResourceVectorClockModel.ofDomain
  rw [hvalue]

variable {resourceId : String}

theorem HonestClocks.step (hdescribes : Describes resourceId payload)
    (hconsistent : Consistent edits payload) (hcovered : Covered edits payload ctx)
    (hhonest : HonestClocks edits resourceId ctx) :
    HonestClocks edits resourceId (imported payload ctx) := by
  intro clock hclock hresource
  rw [← hdescribes.resource] at hhonest ⊢
  rcases mem_extend.mp hclock with hold | ⟨hnew, hfree⟩
  · obtain ⟨resource, hstored, hcounts⟩ :=
      hhonest clock hold (hresource.trans hdescribes.resource.symm)
    exact ⟨resource, resource?_imported_of_stored hstored, hcounts⟩
  · obtain ⟨change, hchange, rfl⟩ := List.mem_map.mp hnew
    rw [toDomain_ofDomain (hcovered.fits change hchange)]
    cases hstored : ResourceRepo.resource? ctx payload.resource.id with
    | none =>
        exact ⟨payload.resource, resource?_imported_of_missing hstored,
          hconsistent change hchange⟩
    | some resource =>
        exact ⟨resource, resource?_imported_of_stored hstored,
          hcovered.kept resource hstored change hchange hfree⟩

theorem HonestClocks.covered_of_imported (hdescribes : Describes resourceId payload)
    (hfits : ∀ clock ∈ payload.vectorClocks, clock.clockValue < 2 ^ 31)
    (hhonest : HonestClocks edits resourceId (imported payload ctx)) :
    Covered edits payload ctx := by
  refine ⟨hfits, fun resource hstored clock hclock hfree => ?_⟩
  have hrow : ResourceVectorClockModel.ofDomain clock ∈ clockRows payload :=
    List.mem_map_of_mem hclock
  obtain ⟨found, hfound, hcounts⟩ :=
    hhonest _ (mem_extend.mpr (.inr ⟨hrow, hfree⟩)) (hdescribes.clocksOf _ hrow)
  rw [← hdescribes.resource, resource?_imported_of_stored hstored] at hfound
  cases hfound
  rwa [toDomain_ofDomain (hfits clock hclock)] at hcounts

theorem receive_eq_imported (hdescribes : Describes resourceId payload)
    (himportable : Importable payload ctx) :
    receive payload ctx = imported payload ctx := by
  have hsaved := (saveResourceSyncData_eq_ok_iff hdescribes).mpr ⟨himportable, rfl⟩
  rw [receive, hsaved]

theorem receive_eq_of_not_importable (hdescribes : Describes resourceId payload)
    (hrejected : ¬ Importable payload ctx) : receive payload ctx = ctx := by
  unfold receive
  split
  · next after hsaved =>
      exact absurd ((saveResourceSyncData_eq_ok_iff hdescribes).mp hsaved).1 hrejected
  · rfl

def EachCovered (edits : AesText → String → Nat) (payloads : List ResourceSyncData)
    (ctx : RepositoryContext) : Prop :=
  ∀ earlier payload, earlier ++ [payload] <+: payloads →
    Importable payload (run receive ctx earlier) →
      Covered edits payload (run receive ctx earlier)

variable {payloads : List ResourceSyncData}

/-- No edit is counted that is missing, after any part of a run of imports. -/
theorem imports_honest (hdescribes : ∀ payload ∈ payloads, Describes resourceId payload)
    (hconsistent : ∀ payload ∈ payloads, Consistent edits payload)
    (hstart : HonestClocks edits resourceId ctx)
    (hcovered : EachCovered edits payloads ctx) :
    ∀ earlier, earlier <+: payloads →
      HonestClocks edits resourceId (run receive ctx earlier) := by
  refine @run_invariant _ _ receive ctx payloads
    (fun _ after => HonestClocks edits resourceId after) hstart ?_
  intro earlier payload hearlier hhonest
  have hpayload : payload ∈ payloads := hearlier.subset (by simp)
  have hdescribed := hdescribes payload hpayload
  by_cases himportable : Importable payload (run receive ctx earlier)
  · rw [receive_eq_imported hdescribed himportable]
    exact hhonest.step hdescribed (hconsistent payload hpayload)
      (hcovered earlier payload hearlier himportable)
  · rwa [receive_eq_of_not_importable hdescribed himportable]

theorem eachCovered_of_honest
    (hdescribes : ∀ payload ∈ payloads, Describes resourceId payload)
    (hfits : ∀ payload ∈ payloads, ∀ clock ∈ payload.vectorClocks,
      clock.clockValue < 2 ^ 31)
    (hhonest : ∀ earlier, earlier <+: payloads →
      HonestClocks edits resourceId (run receive ctx earlier)) :
    EachCovered edits payloads ctx := by
  intro earlier payload hearlier himportable
  have hpayload : payload ∈ payloads := hearlier.subset (by simp)
  have hdescribed := hdescribes payload hpayload
  have hafter := hhonest _ hearlier
  rw [run_concat, receive_eq_imported hdescribed himportable] at hafter
  exact hafter.covered_of_imported hdescribed (hfits payload hpayload)

end Honesty

namespace EditedNote

def version (text : String) (vectorClocks : List ResourceVectorClock) :
    ResourceSyncData :=
  { resource := Resource.new "note" 0 .notes (.other text) "folder" "" "alice"
    resourceKeys := [], shareRecords := [], vectorClocks }

def clock (deviceId : String) : ResourceVectorClock :=
  { id := deviceId, resourceId := "note", deviceId, clockValue := 1, createdAt := 0
    updatedAt := 0 }

def older : ResourceSyncData := version "older" [clock "phone"]

def newer : ResourceSyncData := version "newer" [clock "phone", clock "laptop"]

def edits : AesText → String → Nat
  | .other "newer", _ => 1
  | .other "older", "phone" => 1
  | _, _ => 0

def store : RepositoryContext :=
  { users := [User.sample "alice"]
    devices := [Device.sample "phone" "alice", Device.sample "laptop" "alice"]
    folders := [Folder.sample "folder"] }

theorem describes : ∀ payload ∈ [newer, older], Describes "note" payload := by
  intro payload hpayload
  simp only [List.mem_cons, List.not_mem_nil, or_false] at hpayload
  rcases hpayload with rfl | rfl
  all_goals
    exact ⟨rfl, ⟨by decide, by decide⟩, by decide, ⟨by decide, by decide⟩, by decide,
      ⟨by decide, by decide⟩, by decide⟩

theorem consistent : ∀ payload ∈ [newer, older], Consistent edits payload := by
  intro payload hpayload
  simp only [List.mem_cons, List.not_mem_nil, or_false] at hpayload
  rcases hpayload with rfl | rfl
  all_goals
    unfold Consistent
    decide

end EditedNote

open EditedNote in
theorem imports_honest_newer_older :
    HonestClocks edits "note" (run receive store [newer, older]) := by
  refine imports_honest describes consistent ?_ (fun earlier payload hearlier => ?_)
    [newer, older] List.prefix_rfl
  · exact fun clock hclock => nomatch hclock
  · refine @EachEvent.of_prefix _ (fun earlier payload =>
      Importable payload (run receive store earlier) →
        Covered edits payload (run receive store earlier)) [] [newer, older] earlier payload
      ⟨fun _ => ⟨by decide, fun resource hstored => nomatch hstored⟩, fun _ =>
        ⟨by decide, fun resource hstored clock hclock hfree => absurd ?_ hfree⟩, trivial⟩ hearlier
    cases List.mem_singleton.mp hclock
    exact List.mem_cons_self

open EditedNote in
theorem imports_older_newer_dishonest :
    HonestClocks edits "note" store ∧
      (∀ payload ∈ [newer, older], Describes "note" payload ∧ Consistent edits payload) ∧
      ¬ HonestClocks edits "note" (run receive store [older, newer]) := by
  refine ⟨fun clock hclock => (nomatch hclock), fun payload hpayload =>
    ⟨describes payload hpayload, consistent payload hpayload⟩, fun hhonest => ?_⟩
  obtain ⟨resource, hstored, hcounts⟩ :=
    hhonest (.ofDomain (clock "laptop")) (.tail _ (.head _)) rfl
  cases hstored
  exact absurd hcounts (by decide)

end Osvauld.Persistance
