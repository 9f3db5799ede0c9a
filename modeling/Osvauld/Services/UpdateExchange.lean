import Osvauld.Core.DocumentExchange
import Osvauld.Services.StoredDocuments

namespace Osvauld.Services

open Osvauld.Core Core.DecryptedResource CryptoUtils Data Persistance

/-! Two ends that exchange the updates of a resource they both have. -/

structure UpdateEnd where
  env : ServiceEnv
  userId : String

abbrev Stores := RepositoryContext × RepositoryContext

def here {α : Type} (call : Service α) : Program Stores ServiceError α :=
  call.zoom Prod.fst fun ctx stores => (ctx, stores.2)

def there {α : Type} (call : Service α) : Program Stores ServiceError α :=
  call.zoom Prod.snd fun ctx stores => (stores.1, ctx)

def exchangeUpdates (ours theirs : UpdateEnd) (resourceId : String) :
    Program Stores ServiceError PUnit := do
  let vectors ← here (getResourceStateVector ours.env resourceId ours.userId)
  let updates ← there (generateUpdatesForPeer theirs.env resourceId theirs.userId vectors)
  let answers ← here (applyUpdatesAndGetPeerUpdates ours.env resourceId ours.userId updates)
  there (applyUpdates theirs.env resourceId answers theirs.userId)

theorem run_here {α : Type} (call : Service α) (stores : Stores) :
    (here call).run stores =
      ((call.run stores.1).1, ((call.run stores.1).2, stores.2)) :=
  @Program.run_zoom _ _ _ _ Prod.fst (fun ctx stores => (ctx, stores.2)) (fun _ _ => rfl)
    (fun _ _ _ => rfl) (fun _ => rfl) call stores

theorem run_there {α : Type} (call : Service α) (stores : Stores) :
    (there call).run stores =
      ((call.run stores.2).1, (stores.1, (call.run stores.2).2)) :=
  @Program.run_zoom _ _ _ _ Prod.snd (fun ctx stores => (stores.1, ctx)) (fun _ _ => rfl)
    (fun _ _ _ => rfl) (fun _ => rfl) call stores

def ReadAs (reader : UpdateEnd) (resourceId : String) (resource : DecryptedResource)
    (ctx : RepositoryContext) : Prop :=
  ∃ row, ResourceRepo.findById resourceId reader.userId ctx = .ok row ∧
    decryptSingleResource reader.env row = .ok resource

section Calls

theorem run_liftParse {α : Type} (result : Except String α) (ctx : RepositoryContext) :
    (liftParse result).run ctx = (result.mapError .parseError, ctx) := rfl

variable {reader : UpdateEnd} {resourceId : String} {resource : DecryptedResource}
variable {ctx : RepositoryContext}

theorem ReadAs.getResource_run (hreads : ReadAs reader resourceId resource ctx) :
    ∃ encryptedKey plainKey, (getResource reader.env resourceId reader.userId).run ctx =
        (.ok (resource, encryptedKey), ctx) ∧
      decryptAesKey reader.env.cert encryptedKey = .ok plainKey ∧
      (storedData? ctx resourceId).isSome := by
  obtain ⟨row, hfind, hdecrypt⟩ := hreads
  have hkey : ∃ plainKey, decryptAesKey reader.env.cert row.encryptedKey = .ok plainKey := by
    unfold decryptSingleResource at hdecrypt
    rw [bind_eq_ok] at hdecrypt
    obtain ⟨plain, hplain, -⟩ := hdecrypt
    unfold decryptResource at hplain
    rw [bind_eq_ok] at hplain
    obtain ⟨plainKey, hplainKey, -⟩ := hplain
    exact ⟨plainKey, hplainKey⟩
  obtain ⟨plainKey, hplainKey⟩ := hkey
  refine ⟨row.encryptedKey, plainKey, ?_, hplainKey, ?_⟩
  · rw [getResource, Program.run_bind, query, Program.run_read, hfind]
    change Program.andThen (.ok row, ctx) _ = _
    rw [Program.andThen_ok, Program.run_bind, liftCrypto, Program.run_ofExcept, hdecrypt]
    rfl
  · rw [storedData?, findById_ok hfind]
    rfl

theorem ReadAs.getResourceStateVector_run {vectors : JsonText}
    (hreads : ReadAs reader resourceId resource ctx)
    (hvectors : resource.getStateVectors reader.env.libraries.yrs = .ok vectors) :
    (getResourceStateVector reader.env resourceId reader.userId).run ctx =
      (.ok vectors, ctx) := by
  obtain ⟨encryptedKey, _, hrun, -, -⟩ := hreads.getResource_run
  rw [getResourceStateVector, Program.run_bind, hrun, Program.andThen_ok, run_liftParse,
    hvectors]
  rfl

variable {merged : DecryptedResource} {updates : JsonText}

theorem ReadAs.generateUpdatesForPeer_run {peerStateVectors : JsonText}
    (hreads : ReadAs reader resourceId resource ctx)
    (hsync : resource.syncUpdates reader.env.libraries.yrs peerStateVectors = .ok (merged, updates)) :
    (generateUpdatesForPeer reader.env resourceId reader.userId peerStateVectors).run ctx =
      (.ok updates, ctx) := by
  obtain ⟨encryptedKey, _, hrun, -, -⟩ := hreads.getResource_run
  rw [generateUpdatesForPeer, Program.run_bind, hrun, Program.andThen_ok, Program.run_bind,
    run_liftParse, hsync]
  rfl

section

variable {answers : JsonText} (hreads : ReadAs reader resourceId resource ctx)
  (hsync : resource.syncUpdates reader.env.libraries.yrs updates = .ok (merged, answers))

include hreads hsync

theorem ReadAs.applyUpdatesAndGetPeerUpdates_run :
    ∃ after key, (applyUpdatesAndGetPeerUpdates reader.env resourceId reader.userId
        updates).run ctx = (.ok answers, after) ∧
      storedData? after resourceId = some (.sealed key (.encoded merged.data)) := by
  obtain ⟨encryptedKey, plainKey, hrun, hkey, hstored⟩ := hreads.getResource_run
  have hcipher : CryptoUtils.updateResource reader.env.cert (.encoded merged.data)
      encryptedKey = .ok (.sealed plainKey (.encoded merged.data)) := by
    rw [CryptoUtils.updateResource, hkey]
    rfl
  cases hupdate : ResourceRepo.updateResource reader.env.now
      (.sealed plainKey (.encoded merged.data)) resourceId ctx with
  | error error => cases hupdate
  | ok after =>
      refine ⟨after, plainKey, ?_, ?_⟩
      · rw [applyUpdatesAndGetPeerUpdates, Program.run_bind, hrun, Program.andThen_ok,
          Program.run_bind, run_liftParse, hsync]
        change Program.andThen (.ok (merged, answers), ctx) _ = _
        rw [Program.andThen_ok, Program.run_bind, liftCrypto, Program.run_ofExcept, hcipher]
        change Program.andThen (.ok _, ctx) _ = _
        rw [Program.andThen_ok, Program.run_bind, update, Program.run_write, hupdate]
        rfl
      · obtain ⟨data, hdata⟩ := Option.isSome_iff_exists.mp hstored
        rw [storedData?_updateResource hupdate, if_pos rfl, hdata, Option.map_some]

theorem ReadAs.applyUpdates_run :
    ∃ after key, (applyUpdates reader.env resourceId updates reader.userId).run ctx =
        (.ok .unit, after) ∧
      storedData? after resourceId = some (.sealed key (.encoded merged.data)) := by
  obtain ⟨after, key, hrun, hstored⟩ := hreads.applyUpdatesAndGetPeerUpdates_run hsync
  refine ⟨after, key, ?_, hstored⟩
  rw [applyUpdates, Program.run_bind, hrun]
  rfl

end

end Calls

section Exchange

variable {yrs : Yrs} {L : Type*} [SemilatticeSup L] [OrderBot L]
variable (lawful : ExactYrs yrs L)

def Agree (resourceId : String) (stateKeys : List String) (stores : Stores) : Prop :=
  ∀ stateKey ∈ stateKeys,
    (documents lawful.toLawfulYrs stores.1 resourceId stateKey).unbotD ⊥ =
      (documents lawful.toLawfulYrs stores.2 resourceId stateKey).unbotD ⊥

variable {lawful} {ours theirs : UpdateEnd} {resourceId : String}
variable {resource resource' : DecryptedResource} {ctx ctx' : RepositoryContext}

theorem exchangeUpdates_run (hyrs : ours.env.libraries.yrs = yrs)
    (hyrs' : theirs.env.libraries.yrs = yrs)
    (hreads : ReadAs ours resourceId resource ctx)
    (hreads' : ReadAs theirs resourceId resource' ctx')
    (htype : resource'.resourceType = resource.resourceType)
    (hdocumented : Documented lawful resource.data resource.resourceType.documentStateKeys)
    (hdocumented' : Documented lawful resource'.data
      resource.resourceType.documentStateKeys) :
    ∃ after after' value value' vectors updates answers,
      (exchangeUpdates ours theirs resourceId).run (ctx, ctx') =
          (.ok .unit, (after, after')) ∧
        Exchanged lawful resource.resourceType.documentStateKeys resource.data
          resource'.data value value' vectors updates answers ∧
        documents lawful.toLawfulYrs after resourceId =
          lawful.documentContent value ∧
        documents lawful.toLawfulYrs after' resourceId =
          lawful.documentContent value' := by
  obtain ⟨vectors, hvectors, hdescribed⟩ := getStateVectors_describes hdocumented
  rw [← htype] at hdocumented'
  obtain ⟨discarded, updates, hupdates, -, hupdated⟩ :=
    @syncUpdates_answers _ _ _ _ lawful resource' vectors hdocumented'
      fun stateKey hmem _ entry _ hentry => by
        have htold := hdescribed stateKey (htype ▸ hmem)
        rw [hentry] at htold
        exact htold.tells
  obtain ⟨merged, answers, hanswers, htakes, hanswered⟩ :=
    @syncUpdates_answers _ _ _ _ lawful resource updates hdocumented
      fun stateKey hmem _ entry _ hentry => by
        have htold := hupdated stateKey (htype ▸ hmem)
        rw [hentry] at htold
        exact htold.tells
  obtain ⟨merged', unsent, hsync, htakes', -⟩ :=
    @syncUpdates_answers _ _ _ _ lawful resource' answers hdocumented'
      fun stateKey hmem _ entry _ hentry => by
        have htold := hanswered stateKey (htype ▸ hmem)
        rw [hentry] at htold
        exact htold.tells
  rw [htype] at hupdated htakes'
  rw [← hyrs] at hvectors hanswers
  rw [← hyrs'] at hupdates hsync
  obtain ⟨after, key, hrun, hstored⟩ :=
    hreads.applyUpdatesAndGetPeerUpdates_run hanswers
  obtain ⟨after', key', hrun', hstored'⟩ := hreads'.applyUpdates_run hsync
  refine ⟨after, after', merged.data, merged'.data, vectors, updates, answers, ?_,
    ⟨hdescribed, hupdated, hanswered, htakes, htakes'⟩, documents_of_data _ hstored,
    documents_of_data _ hstored'⟩
  rw [exchangeUpdates, Program.run_bind, run_here,
    hreads.getResourceStateVector_run hvectors, Program.andThen_ok, Program.run_bind,
    run_there, hreads'.generateUpdatesForPeer_run hupdates, Program.andThen_ok,
    Program.run_bind, run_here, hrun, Program.andThen_ok, run_there, hrun']

/-- After an exchange two ends have the same documents exactly when each document was
one of both ends or of neither, or nothing was in it. -/
theorem exchangeUpdates_agree_iff (hyrs : ours.env.libraries.yrs = yrs)
    (hyrs' : theirs.env.libraries.yrs = yrs)
    (hreads : ReadAs ours resourceId resource ctx)
    (hreads' : ReadAs theirs resourceId resource' ctx')
    (htype : resource'.resourceType = resource.resourceType)
    (hdocumented : Documented lawful resource.data resource.resourceType.documentStateKeys)
    (hdocumented' : Documented lawful resource'.data
      resource.resourceType.documentStateKeys) :
    (∃ stores, (exchangeUpdates ours theirs resourceId).run (ctx, ctx') =
        (.ok .unit, stores) ∧
      Agree lawful resourceId resource.resourceType.documentStateKeys stores) ↔
      ∀ stateKey ∈ resource.resourceType.documentStateKeys,
        Paired lawful resource.data resource'.data stateKey := by
  obtain ⟨after, after', value, value', vectors, updates, answers, hrun, hexchanged,
    hdocuments, hdocuments'⟩ := exchangeUpdates_run hyrs hyrs' hreads hreads' htype
      hdocumented hdocumented'
  have hagree : Agree lawful resourceId resource.resourceType.documentStateKeys
      (after, after') ↔ ∀ stateKey ∈ resource.resourceType.documentStateKeys,
        Paired lawful resource.data resource'.data stateKey := by
    refine forall₂_congr fun stateKey hmem => ?_
    rw [← hexchanged.agree_iff hmem, hdocuments, hdocuments']
    rfl
  rw [← hagree, hrun]
  constructor
  · rintro ⟨stores, hstores, hsame⟩
    cases hstores
    exact hsame
  · intro hsame
    exact ⟨(after, after'), rfl, hsame⟩

end Exchange

def noteEnd (userId : String) : UpdateEnd :=
  { env :=
      { libraries := .tabled [], cert := some userId, now := 0, domain := "livnote"
        fuel := 8 }
    userId }

def noteValue (states : List (String × UInt8)) : Value :=
  .object (states.map fun state => (state.1, .ofBytes [state.2]))

def noteStore (userId : String) (states : List (String × UInt8)) : RepositoryContext :=
  { resources :=
      [.new "a" 0 .notes (.sealed "k" (.encoded (noteValue states))) "folder" "" "R"]
    resourceKeys := [.new "key" 0 "a" userId (.sealed userId "k") true] }

def noteResource (states : List (String × UInt8)) : DecryptedResource :=
  { id := "a", resourceType := .notes, data := noteValue states, lastAccessed := 0
    favourite := false, folderId := "folder" }

theorem documented_noteValue (states : List (String × UInt8)) (stateKeys : List String) :
    Documented Yrs.exactBits (noteValue states) stateKeys := by
  intro stateKey _ bytes hbytes
  rw [Value.documentBytes, noteValue, Value.get] at hbytes
  rw [Option.bind_eq_some_iff] at hbytes
  obtain ⟨item, hitem, hbytes⟩ := hbytes
  obtain ⟨field, hfield, rfl⟩ := Option.map_eq_some_iff.mp hitem
  obtain ⟨state, -, rfl⟩ := List.mem_map.mp (List.mem_of_find?_eq_some hfield)
  rw [Value.asBytes_ofBytes] at hbytes
  cases hbytes
  exact ⟨updateBits state.2, rfl⟩

/-- Both users have the main document, and only one of them an image document. -/
theorem exchangeUpdates_one_sided :
    ¬ ∃ stores, (exchangeUpdates (noteEnd "R") (noteEnd "S") "a").run
        (noteStore "R" [("main_doc", 1), ("image_state", 2)],
          noteStore "S" [("main_doc", 4)]) = (.ok .unit, stores) ∧
      Agree Yrs.exactBits "a" ResourceType.notes.documentStateKeys stores := by
  rintro ⟨stores, hrun, hagree⟩
  have hreads : ReadAs (noteEnd "R") "a"
      (noteResource [("main_doc", 1), ("image_state", 2)])
      (noteStore "R" [("main_doc", 1), ("image_state", 2)]) := ⟨_, rfl, rfl⟩
  have hreads' : ReadAs (noteEnd "S") "a" (noteResource [("main_doc", 4)])
      (noteStore "S" [("main_doc", 4)]) := ⟨_, rfl, rfl⟩
  obtain ⟨after, after', value, value', _, _, _, hends, hexchanged, hdocuments,
    hdocuments'⟩ := @exchangeUpdates_run _ _ _ _ Yrs.exactBits _ _ _ _ _ _ _ rfl rfl
      hreads hreads' rfl (documented_noteValue _ _) (documented_noteValue _ _)
  rw [hends] at hrun
  cases hrun
  have himage : "image_state" ∈ ResourceType.notes.documentStateKeys := by decide
  have hsame := hagree "image_state" himage
  rw [hdocuments, hdocuments'] at hsame
  rcases (hexchanged.agree_iff himage).mp hsame with hboth | ⟨hempty, -⟩
  · exact absurd hboth (by decide)
  · have hbit : updateBits 2 1 = false := congrFun hempty 1
    exact absurd hbit (by decide)

/-- Both users have both documents, and neither has comments. -/
theorem exchangeUpdates_both_sided :
    ∃ stores, (exchangeUpdates (noteEnd "R") (noteEnd "S") "a").run
        (noteStore "R" [("main_doc", 1), ("image_state", 2)],
          noteStore "S" [("main_doc", 4), ("image_state", 8)]) = (.ok .unit, stores) ∧
      Agree Yrs.exactBits "a" ResourceType.notes.documentStateKeys stores := by
  have hreads : ReadAs (noteEnd "R") "a"
      (noteResource [("main_doc", 1), ("image_state", 2)])
      (noteStore "R" [("main_doc", 1), ("image_state", 2)]) := ⟨_, rfl, rfl⟩
  have hreads' : ReadAs (noteEnd "S") "a"
      (noteResource [("main_doc", 4), ("image_state", 8)])
      (noteStore "S" [("main_doc", 4), ("image_state", 8)]) := ⟨_, rfl, rfl⟩
  refine (@exchangeUpdates_agree_iff _ _ _ _ Yrs.exactBits _ _ _ _ _ _ _ rfl rfl hreads
    hreads' rfl (documented_noteValue _ _) (documented_noteValue _ _)).mpr ?_
  intro stateKey hmem
  left
  revert stateKey
  decide

end Osvauld.Services
