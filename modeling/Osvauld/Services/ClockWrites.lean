import Osvauld.Data.Interleaving
import Osvauld.Persistance.ClockOrder
import Osvauld.Services.ResourceService

namespace Osvauld.Services

open Osvauld.Core Data Persistance

/-! Everything that writes clocks, with its steps interleaved. -/

inductive ClockCall where
  | incrementVectorClock (freshId : String) (now : Int)
      (resourceId deviceId : String)
  | mergeVectorClocks (resourceId : String)
      (vectorClocks : List ResourceVectorClock)
  | updateVectorClocks (addClock updateClock : List ResourceVectorClock)
  | saveBulkSharingData (resourceKeys : List ResourceKey)
      (shareRecords : List ShareRecord) (vectorClocks : List ResourceVectorClock)
  | saveResourceAndFolderSharingData (resourceKeys : List ResourceKey)
      (resourceShareRecords : List ShareRecord)
      (vectorClocks : List ResourceVectorClock)
      (folderShareRecords : List FolderShareRecord)

namespace ClockCall

def body : ClockCall → Service PUnit
  | incrementVectorClock freshId now resourceId deviceId =>
      update (VectorClockRepo.incrementVectorClock freshId now resourceId deviceId)
  | mergeVectorClocks resourceId vectorClocks => do
      let _ ← Services.mergeVectorClocks resourceId vectorClocks
  | updateVectorClocks addClock updateClock =>
      Services.updateVectorClocks addClock updateClock
  | saveBulkSharingData resourceKeys shareRecords vectorClocks =>
      update (ResourceRepo.saveBulkSharingData resourceKeys shareRecords vectorClocks)
  | saveResourceAndFolderSharingData resourceKeys resourceShareRecords vectorClocks
        folderShareRecords =>
      update (ResourceRepo.saveResourceAndFolderSharingData resourceKeys
        resourceShareRecords vectorClocks folderShareRecords)

def sets (call : ClockCall) (since : RepositoryContext) : List ResourceVectorClock :=
  match call with
  | incrementVectorClock .. => []
  | mergeVectorClocks resourceId vectorClocks =>
      (ResourceVectorClock.merge (ResourceRepo.clocksOf since resourceId)
        vectorClocks).updateLocal
  | updateVectorClocks _ updateClock => updateClock
  | saveBulkSharingData _ _ vectorClocks => vectorClocks
  | saveResourceAndFolderSharingData _ _ vectorClocks _ => vectorClocks

def RoomToIncrement (call : ClockCall) (ctx : RepositoryContext) : Prop :=
  match call with
  | incrementVectorClock _ _ resourceId deviceId =>
      ∀ held, storedClock? ctx resourceId deviceId = some held → held < 2 ^ 31 - 1
  | _ => True

def Ahead (call : ClockCall) (since ctx ctx' : RepositoryContext) : Prop :=
  ctx'.vectorClocks ≠ ctx.vectorClocks →
    call.RoomToIncrement ctx ∧ ∀ change ∈ call.sets since, NotBehind ctx change

theorem rises_of_ahead {call : ClockCall} {since ctx ctx' : RepositoryContext}
    (hahead : call.Ahead since ctx ctx')
    (hrises : call.RoomToIncrement ctx →
      (∀ change ∈ call.sets since, NotBehind ctx change) → ClocksRise ctx ctx') :
    ClocksRise ctx ctx' := by
  by_cases hsame : ctx'.vectorClocks = ctx.vectorClocks
  · exact .of_eq hsame
  · obtain ⟨hroom, hsets⟩ := hahead hsame
    exact hrises hroom hsets

theorem mergeVectorClocks_follows (resourceId : String)
    (vectorClocks : List ResourceVectorClock) (since : RepositoryContext) :
    Program.Follows (Ahead (.mergeVectorClocks resourceId vectorClocks)) ClocksRise
      (fun _ _ => True) since (Services.mergeVectorClocks resourceId vectorClocks) := by
  have hread : Program.Follows (Ahead (.mergeVectorClocks resourceId vectorClocks))
      ClocksRise (fun clocks ctx => clocks = ResourceRepo.clocksOf ctx resourceId)
      since (query (VectorClockRepo.getVectorClocksForResource resourceId)) :=
    query_follows fun ctx clocks _ _ hclocks => (Except.ok.inj hclocks).symm
  refine .bind hread fun clocks ctx _ hclocks => ?_
  subst hclocks
  have hwrite : ∀ updates additions, updates =
      (ClockCall.mergeVectorClocks resourceId vectorClocks).sets ctx →
      Program.Follows (Ahead (.mergeVectorClocks resourceId vectorClocks)) ClocksRise
        (fun _ _ => True) ctx
        (update (VectorClockRepo.updateVectorClocks updates additions)) := by
    intro updates additions hupdates
    refine update_follows fun found written _ hahead hupdate => ⟨?_, trivial⟩
    apply rises_of_ahead hahead
    intro _ hsets
    exact .updateVectorClocks (hupdates ▸ hsets) hupdate
  exact .ite (.bind (hwrite _ _ rfl) fun _ _ _ _ => .pure trivial) (.pure trivial)

theorem body_follows (call : ClockCall) (since : RepositoryContext) :
    Program.Follows call.Ahead ClocksRise (fun _ _ => True) since call.body := by
  cases call with
  | incrementVectorClock freshId now resourceId deviceId =>
      refine update_follows fun ctx ctx' _ hahead hincrement => ⟨?_, trivial⟩
      exact rises_of_ahead hahead fun hroom _ =>
        .incrementVectorClock hroom hincrement
  | mergeVectorClocks resourceId vectorClocks =>
      exact .bind (mergeVectorClocks_follows resourceId vectorClocks since)
        fun _ _ _ _ => .pure trivial
  | updateVectorClocks addClock updateClock =>
      refine update_follows fun ctx ctx' _ hahead hupdate => ⟨?_, trivial⟩
      exact rises_of_ahead hahead fun _ hsets => .updateVectorClocks hsets hupdate
  | saveBulkSharingData resourceKeys shareRecords vectorClocks =>
      refine update_follows fun ctx ctx' _ hahead hsave => ⟨?_, trivial⟩
      exact rises_of_ahead hahead fun _ hsets => .saveBulkSharingData hsets hsave
  | saveResourceAndFolderSharingData resourceKeys resourceShareRecords vectorClocks
        folderShareRecords =>
      refine update_follows fun ctx ctx' _ hahead hsave => ⟨?_, trivial⟩
      exact rises_of_ahead hahead fun _ hsets =>
        .saveResourceAndFolderSharingData hsets hsave

end ClockCall

def afterClockWrites (start : RepositoryContext)
    (events : List (PoolEvent ClockCall)) :
    Pool ClockCall RepositoryContext ServiceError PUnit :=
  run (Pool.step ClockCall.body) { state := start } events

def phoneClock (clockValue : Nat) : ResourceVectorClock :=
  .new "clock" 0 "a" "phone" clockValue

def clockStore : RepositoryContext :=
  { vectorClocks := [.ofDomain (phoneClock 1)] }

def lateResponse (clockValue : Nat) : List (PoolEvent ClockCall) :=
  [.start (.mergeVectorClocks "a" [phoneClock 5]), .advance 0, .advance 0,
    .start (.updateVectorClocks [] [phoneClock clockValue]), .advance 1]

theorem late_response_ahead :
    EachEvent (Pool.EventAllowed ClockCall.body clockStore ClockCall.Ahead) []
      (lateResponse 7) := by
  refine ⟨Pool.eventAllowed_start _, ?_, ?_, Pool.eventAllowed_start _, ?_, trivial⟩
  · exact Pool.eventAllowed_advance rfl rfl fun hchanged => absurd rfl hchanged
  · refine Pool.eventAllowed_advance rfl rfl fun _ => ⟨trivial, ?_⟩
    intro change hchange
    obtain rfl : change = phoneClock 5 := List.mem_singleton.mp hchange
    exact .of_stored (by decide +kernel : storedClock? _ _ _ = some 1)
      (by decide +kernel)
  · refine Pool.eventAllowed_advance rfl rfl fun _ => ⟨trivial, ?_⟩
    intro change hchange
    obtain rfl : change = phoneClock 7 := List.mem_singleton.mp hchange
    exact .of_stored (by decide +kernel : storedClock? _ _ _ = some 5)
      (by decide +kernel)

end Osvauld.Services
