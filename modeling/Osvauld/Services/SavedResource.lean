import Osvauld.Services.StoredDocuments

namespace Osvauld.Services

open Osvauld.Core Data Persistance

/-! What a run of `update_resource` makes of the stored data. -/

def SameData (ctx ctx' : RepositoryContext) : Prop :=
  ∀ resourceId, storedData? ctx' resourceId = storedData? ctx resourceId

theorem SameData.of_resources {ctx ctx' : RepositoryContext}
    (hresources : ctx'.resources = ctx.resources) : SameData ctx ctx' := by
  intro resourceId
  simp [storedData?, ResourceRepo.resource?, hresources]

theorem SameData.trans {first second third : RepositoryContext}
    (hfirst : SameData first second) (hsecond : SameData second third) :
    SameData first third :=
  fun resourceId => (hsecond resourceId).trans (hfirst resourceId)

structure Saved (resourceId : String) (data : JsonText)
    (ctx ctx' : RepositoryContext) : Prop where
  existed : (storedData? ctx resourceId).isSome
  written : (storedData? ctx' resourceId).map plainValue = some (textValue data)
  others : ∀ other, other ≠ resourceId →
    storedData? ctx' other = storedData? ctx other

theorem Saved.followed {resourceId : String} {data : JsonText}
    {ctx written ctx' : RepositoryContext} (hsaved : Saved resourceId data ctx written)
    (hsame : SameData written ctx') : Saved resourceId data ctx ctx' where
  existed := hsaved.existed
  written := by rw [hsame, hsaved.written]
  others other hother := by rw [hsame, hsaved.others other hother]

theorem Saved.of_update (now : Int) (key : String) {resourceId : String}
    {data : JsonText} {ctx ctx' : RepositoryContext} (hexisted : (storedData? ctx resourceId).isSome)
    (hupdate : ResourceRepo.updateResource now (.sealed key data) resourceId ctx =
      .ok ctx') : Saved resourceId data ctx ctx' := by
  have hafter := storedData?_updateResource hupdate
  obtain ⟨old, hold⟩ := Option.isSome_iff_exists.mp hexisted
  refine ⟨hexisted, ?_, fun other hother => by rw [hafter, if_neg hother]⟩
  simp [hafter, hold, plainValue]

variable (env : ServiceEnv)

section

variable {resourceId userId : String} {ctx : RepositoryContext} {resource : DecryptedResource}
  (hread : ((getResourceByIdDirect env resourceId userId).run ctx).1 = .ok resource)

include hread

theorem getResourceByIdDirect_shows :
    ∃ stored, ResourceRepo.resource? ctx resourceId = some stored ∧
      Shows resource stored := by
  unfold getResourceByIdDirect at hread
  rw [Program.run_bind] at hread
  cases hfind : ResourceRepo.findById resourceId userId ctx with
  | ok row =>
      simp only [query, Program.run_read, hfind, Except.mapError, Program.andThen_ok,
        liftCrypto, Program.run_ofExcept] at hread
      exact ⟨row.resource, findById_ok hfind,
        decryptSingleResource_ok (mapError_eq_ok.mp hread)⟩
  | error error => simp [query, hfind, Except.mapError] at hread

theorem getResourceByIdDirect_documents :
    ∃ data, storedData? ctx resourceId = some data ∧
      resource.data.documentBytes = (plainValue data).documentBytes := by
  obtain ⟨stored, hstored, hshows⟩ := getResourceByIdDirect_shows env hread
  exact ⟨stored.data, by simp [storedData?, hstored], hshows.documents⟩

end

theorem afterUpdate_run (resourceId userId currentDeviceId : String)
    (ctx : RepositoryContext) :
    SameData ctx ((do
      let clockId ← drawId env
      update (VectorClockRepo.incrementVectorClock clockId env.now resourceId
        currentDeviceId)
      getResourceByIdDirect env resourceId userId :
        Service DecryptedResource).run ctx).2 := by
  have hguarantees : Program.Guarantees SameData (do
      let clockId ← drawId env
      update (VectorClockRepo.incrementVectorClock clockId env.now resourceId
        currentDeviceId)
      getResourceByIdDirect env resourceId userId : Service DecryptedResource) := by
    have hrefl : ∀ ctx, SameData ctx ctx := fun ctx _ => rfl
    refine .bind (.bind (.atomically fun ctx => .of_resources rfl) fun _ => .pure _)
      fun clockId => .bind (.write hrefl fun ctx ctx' hincrement => ?_)
        fun _ => .bind (.read hrefl _) fun _ => .done
    exact .of_resources (incrementVectorClock_resources (mapError_eq_ok.mp hincrement))
  exact hguarantees.run (fun _ _ => rfl) (fun _ _ _ => SameData.trans) ctx

theorem updateResource_run (resourceId : String) (data : JsonText)
    (userId currentDeviceId : String) (ctx : RepositoryContext) :
    let outcome := (updateResource env resourceId data userId currentDeviceId).run ctx
    Saved resourceId data ctx outcome.2 ∨
      SameData ctx outcome.2 ∧ ∀ resource, outcome.1 ≠ .ok resource := by
  unfold updateResource
  simp only [Program.run_bind]
  cases hfind : ResourceRepo.findById resourceId userId ctx with
  | error error =>
      right
      simp [query, hfind, Except.mapError, SameData]
  | ok row =>
      simp only [query, Program.run_read, hfind, Except.mapError, Program.andThen_ok,
        Program.run_bind, liftCrypto, Program.run_ofExcept]
      cases hencrypt : CryptoUtils.updateResource env.cert data row.encryptedKey with
      | error error =>
          right
          simp [SameData]
      | ok encrypted =>
          left
          obtain ⟨key, rfl⟩ := updateResource_ok hencrypt
          have hstored : (storedData? ctx resourceId).isSome := by
            simp [storedData?, findById_ok hfind]
          have hwrite : Saved resourceId data ctx _ :=
            .of_update env.now key hstored rfl
          exact hwrite.followed (afterUpdate_run env resourceId userId currentDeviceId _)

def OnlyBytesChange (value value' : Value) : Prop :=
  ∀ stateKey, value'.get stateKey = value.get stateKey ∨
    (value.documentBytes stateKey).isSome ∧ (value'.documentBytes stateKey).isSome

theorem OnlyBytesChange.trans {first second third : Value}
    (hfirst : OnlyBytesChange first second) (hsecond : OnlyBytesChange second third) :
    OnlyBytesChange first third := by
  intro stateKey
  rcases hfirst stateKey with hsame | hbytes <;>
    rcases hsecond stateKey with hsame' | hbytes'
  · exact .inl (hsame'.trans hsame)
  · refine .inr ⟨?_, hbytes'.2⟩
    unfold Value.documentBytes at hbytes' ⊢
    rw [← hsame]
    exact hbytes'.1
  · refine .inr ⟨hbytes.1, ?_⟩
    unfold Value.documentBytes at hbytes ⊢
    rw [hsame']
    exact hbytes.2
  · exact .inr ⟨hbytes.1, hbytes'.2⟩

theorem OnlyBytesChange.insert {value : Value} {stateKey : String} {bytes : Bytes}
    (hbytes : value.documentBytes stateKey = some bytes) (bytes' : Bytes) :
    OnlyBytesChange value (value.insert stateKey (.ofBytes bytes')) := by
  intro other
  cases value with
  | object fields =>
      by_cases hother : other = stateKey
      · subst hother
        exact .inr ⟨by simp [hbytes],
          by simp [Value.documentBytes, Value.insert, Value.get_insertField]⟩
      · exact .inl (by simp [Value.insert, Value.get_insertField, hother])
  | _ => cases hbytes

theorem syncKey_onlyBytesChange {yrs : Yrs} {input : List (String × Value)}
    {stateKey : String} {state state' : Value × List (String × Value)}
    (hsync : DecryptedResource.syncKey yrs input stateKey state = .ok state') :
    OnlyBytesChange state.1 state'.1 := by
  unfold DecryptedResource.syncKey at hsync
  split at hsync
  · next ourStateData entry hstored _ =>
      rw [bind_eq_ok] at hsync
      obtain ⟨⟨newState, answer⟩, _, hresult⟩ := hsync
      cases hresult
      cases newState with
      | some bytes => exact .insert hstored bytes
      | none => exact fun _ => .inl rfl
  · cases hsync
    exact fun _ => .inl rfl

theorem syncUpdates_onlyBytesChange {yrs : Yrs} {resource merged : DecryptedResource}
    {updates answers : JsonText}
    (hsync : resource.syncUpdates yrs updates = .ok (merged, answers)) :
    OnlyBytesChange resource.data merged.data := by
  unfold DecryptedResource.syncUpdates at hsync
  split at hsync
  · cases hsync
  · next input _ =>
      rw [bind_eq_ok] at hsync
      obtain ⟨⟨data, results⟩, hloop, hresult⟩ := hsync
      cases hresult
      refine foldlM_invariant (fun state => OnlyBytesChange resource.data state.1)
        (fun stateKey _ state next hstate hnext => ?_) (fun _ => .inl rfl) hloop
      exact hstate.trans (syncKey_onlyBytesChange hnext)

theorem decryptSingleResource_data {row : ResourceWithKey}
    {resource : DecryptedResource}
    (hdecrypt : decryptSingleResource env row = .ok resource) :
    resource.data = plainValue row.resource.data ∨
      resource.data = unparsedData ∧ plainValue row.resource.data = .null := by
  unfold decryptSingleResource at hdecrypt
  rw [bind_eq_ok] at hdecrypt
  obtain ⟨plain, hplain, hresource⟩ := hdecrypt
  cases hresource
  obtain ⟨key, hdata⟩ := decryptResource_ok hplain
  rw [hdata]
  cases plain with
  | encoded value => exact .inl rfl
  | malformed text => exact .inr ⟨rfl, rfl⟩

inductive MergeResult (resourceId : String) (updates : JsonText)
    (ctx ctx' : RepositoryContext) : Prop
  | merged (row : ResourceWithKey) (resource merged : DecryptedResource)
      (answers : JsonText) :
      ResourceRepo.resource? ctx resourceId = some row.resource →
      decryptSingleResource env row = .ok resource →
      resource.syncUpdates env.libraries.yrs updates = .ok (merged, answers) →
      Saved resourceId (.encoded merged.data) ctx ctx' →
      MergeResult resourceId updates ctx ctx'
  | failed : SameData ctx ctx' → MergeResult resourceId updates ctx ctx'

theorem applyUpdatesAndGetPeerUpdates_run (resourceId userId : String)
    (updates : JsonText) (ctx : RepositoryContext) :
    MergeResult env resourceId updates ctx
      ((applyUpdatesAndGetPeerUpdates env resourceId userId updates).run ctx).2 := by
  unfold applyUpdatesAndGetPeerUpdates getResource
  simp only [Program.run_bind]
  cases hfind : ResourceRepo.findById resourceId userId ctx with
  | error error =>
      refine .failed fun other => ?_
      simp [query, hfind, Except.mapError]
  | ok row =>
      cases hdecrypt : decryptSingleResource env row with
      | error error =>
          refine .failed fun other => ?_
          simp [query, hfind, liftCrypto, hdecrypt, Except.mapError]
      | ok resource =>
          cases hsync : resource.syncUpdates env.libraries.yrs updates with
          | error message =>
              refine .failed fun other => ?_
              simp [query, hfind, liftCrypto, hdecrypt, liftParse, hsync,
                Except.mapError]
          | ok result =>
              cases hencrypt : CryptoUtils.updateResource env.cert
                (.encoded result.1.data) row.encryptedKey with
              | error error =>
                  refine .failed fun other => ?_
                  simp [query, hfind, liftCrypto, hdecrypt, liftParse, hsync, hencrypt,
                    Except.mapError]
              | ok encrypted =>
                  obtain ⟨key, rfl⟩ := updateResource_ok hencrypt
                  have hstored : (storedData? ctx resourceId).isSome := by
                    simp [storedData?, findById_ok hfind]
                  refine .merged row resource result.1 result.2 (findById_ok hfind)
                    hdecrypt hsync ?_
                  simp only [query, Program.run_read, hfind, Except.mapError,
                    Program.andThen_ok, Program.run_bind, liftCrypto,
                    Program.run_ofExcept, hdecrypt, Program.run_pure, liftParse, hsync,
                    hencrypt]
                  exact .of_update env.now key hstored rfl

end Osvauld.Services
